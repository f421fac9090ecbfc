import BearerAuth.Proofs.Token.Claims

/-!
# Claims that are written and read again

A renewal reads the claims of a token and writes them into the next one, so that nothing
may get lost on the way, however often it is gone. What was read can be written, and is
read again as it was. Documents that differ only in members that do not count hold the
same claims.

- `Json.decode?`: what a document holds.
- `RoundTrips`: what was written reads back, and what was read is fit to be written.
- `Json.Unread`, `Json.Omissible`: a member that does not count whatever it holds, and
  one that may as well be left out.
- `claims_round_trip`: claims of both kinds go through documents unchanged, and the
  members that do not count.
-/

namespace BearerAuth

/-! ## Documents -/

/-- What a document holds for a reader. -/
def Json.decode? {α : Type} (ofJson? : Json → Option α) (document : List UInt8) : Option α :=
  (Json.read? document).bind ofJson?

/-- Proper values read back from what is written for them, and every value that is read
is proper, so that writing and reading it again changes nothing any more. -/
structure RoundTrips {α : Type} (proper : α → Prop) (toJson : α → Json)
    (ofJson? : Json → Option α) : Prop where
  decode_write : ∀ a, proper a → Json.decode? ofJson? (toJson a).write = some a
  proper_of_decode : ∀ document a, Json.decode? ofJson? document = some a → proper a
  again : ∀ document,
    (Json.decode? ofJson? document).bind (fun a => Json.decode? ofJson? (toJson a).write) =
      Json.decode? ofJson? document

/-- A document holds the value that is written in it. What remains is to read values. -/
theorem roundTrips_of {α : Type} {proper : α → Prop} {toJson : α → Json}
    {ofJson? : Json → Option α} (hwellFormed : ∀ a, (toJson a).WellFormed)
    (hread : ∀ a, proper a → ofJson? (toJson a) = some a)
    (hproper : ∀ j a, ofJson? j = some a → proper a) : RoundTrips proper toJson ofJson? := by
  have hwrite : ∀ a, proper a → Json.decode? ofJson? (toJson a).write = some a := by
    intro a ha
    rw [Json.decode?, Json.read?_write (hwellFormed a), Option.bind_some, hread a ha]
  have hdecode : ∀ document a, Json.decode? ofJson? document = some a → proper a := by
    intro document a ha
    obtain ⟨j, -, hj⟩ := Option.bind_eq_some_iff.1 ha
    exact hproper j a hj
  refine ⟨hwrite, hdecode, fun document => ?_⟩
  cases ha : Json.decode? ofJson? document with
  | none => rfl
  | some a => exact hwrite a (hdecode document a ha)

/-! ## Members that do not count -/

namespace Json

variable {α : Type}

/-- Members of this name are passed over wherever they stand. -/
def Unread (ofJson? : Json → Option α) (name : String) : Prop :=
  ∀ value before after,
    ofJson? (.ofMembers (before ++ (name, value) :: after)) = ofJson? (.ofMembers (before ++ after))

/-- Without a member of this name an object is read as if it had one with the value,
wherever it may stand. -/
def Omissible (ofJson? : Json → Option α) (name : String) (value : Json) : Prop :=
  ∀ before after, name ∉ (before ++ after).map (·.1) →
    ofJson? (.ofMembers (before ++ (name, value) :: after)) = ofJson? (.ofMembers (before ++ after))

variable {name other : String} {value : Json} {before after : List (String × Json)}

/-- A member counts under its own name only. -/
theorem valuesOf_insert_of_ne (h : name ≠ other) :
    valuesOf other (before ++ (name, value) :: after) = valuesOf other (before ++ after) := by
  rw [valuesOf_append, valuesOf_append]
  unfold valuesOf
  rw [List.filter_cons, if_neg (by simpa using h)]

theorem valuesOf_of_notMem {members : List (String × Json)} (h : name ∉ members.map (·.1)) :
    valuesOf name members = [] := by
  unfold valuesOf
  rw [List.map_eq_nil_iff, List.filter_eq_nil_iff]
  intro m hm heq
  exact h (List.mem_map.2 ⟨m, hm, beq_iff_eq.1 heq⟩)

/-- The only member of a name is found under it. -/
theorem valuesOf_insert_self (h : name ∉ (before ++ after).map (·.1)) :
    valuesOf name (before ++ (name, value) :: after) = [value] := by
  have hfresh := valuesOf_of_notMem h
  rw [valuesOf_append, List.append_eq_nil_iff] at hfresh
  obtain ⟨hbefore, hafter⟩ := hfresh
  rw [valuesOf_append, hbefore, List.nil_append]
  unfold valuesOf at hafter ⊢
  rw [List.filter_cons, if_pos (beq_self_eq_true name), List.map_cons, hafter]

/-- One member of a new name repeats none. -/
theorem unrepeated_insert (names : List String) (h : name ∉ (before ++ after).map (·.1)) :
    unrepeated names (before ++ (name, value) :: after) = unrepeated names (before ++ after) := by
  unfold unrepeated
  refine congrArg (List.all names) (funext fun other => ?_)
  by_cases hname : name = other
  · subst hname
    rw [valuesOf_insert_self h, valuesOf_of_notMem h]
    rfl
  · rw [valuesOf_insert_of_ne hname]

end Json

namespace AccessClaims

theorem ofJson?_ofMembers (named : List (String × Json)) :
    ofJson? (.ofMembers named) = ofNamed? named := by
  rw [Json.ofMembers, ofJson?_object, Json.namedMembers?_map, Option.bind_some]

/-- A member with a known name makes no difference to the fields. -/
theorem fieldPairs?_insert {name : String} (h : name ∈ known) (value : Json)
    (before after : List (String × Json)) :
    fieldPairs? (before ++ (name, value) :: after) = fieldPairs? (before ++ after) := by
  induction before with
  | nil => rw [List.nil_append, List.nil_append, fieldPairs?, if_pos h]
  | cons m rest ih =>
    rw [List.cons_append, List.cons_append, fieldPairs?, fieldPairs?, ih]

/-- A token that was never renewed may say so. -/
theorem omissible_refreshedAt : Json.Omissible ofJson? "refreshed_at" .null := by
  intro before after h
  rw [ofJson?_ofMembers, ofJson?_ofMembers]
  unfold ofNamed?
  rw [Json.unrepeated_insert known h, Json.valuesOf_insert_self h, Json.valuesOf_of_notMem h,
    Json.valuesOf_insert_of_ne (by decide), Json.valuesOf_insert_of_ne (by decide),
    fieldPairs?_insert (by decide)]
  rfl

end AccessClaims

namespace RefreshClaims

theorem ofJson?_ofMembers (named : List (String × Json)) :
    ofJson? (.ofMembers named) = ofNamed? named := by
  rw [Json.ofMembers, ofJson?_object, Json.namedMembers?_map, Option.bind_some]

/-- Only the known members count. -/
theorem ofNamed?_congr {named other : List (String × Json)}
    (h : ∀ name ∈ known, Json.valuesOf name named = Json.valuesOf name other) :
    ofNamed? named = ofNamed? other := by
  have hunrepeated : Json.unrepeated known named = Json.unrepeated known other := by
    rw [Bool.eq_iff_iff, Json.unrepeated, Json.unrepeated, List.all_eq_true, List.all_eq_true]
    refine forall₂_congr fun name hname => ?_
    rw [h name hname]
  unfold ofNamed?
  rw [hunrepeated, h "username" (by decide), h "addr" (by decide), h "iat" (by decide),
    h "exp" (by decide), h "aexp" (by decide), h "valid" (by decide)]

/-- Members with names that are not known are not read. -/
theorem unread_of_notMem_known {name : String} (h : name ∉ known) :
    Json.Unread ofJson? name := by
  intro value before after
  rw [ofJson?_ofMembers, ofJson?_ofMembers]
  refine ofNamed?_congr fun other hother => ?_
  have hne : name ≠ other := by
    rintro rfl
    exact h hother
  exact Json.valuesOf_insert_of_ne hne

/-- The members that may be left out, with the values that count then. -/
def leftOut : List (String × Json) :=
  [("username", .null), ("addr", .ofText ""), ("valid", .bool false)]

/-- A member that may be left out reads as if it were absent. -/
theorem omissible_of_mem_leftOut {m : String × Json} (hm : m ∈ leftOut) :
    Json.Omissible ofJson? m.1 m.2 := by
  intro before after h
  rw [ofJson?_ofMembers, ofJson?_ofMembers]
  unfold ofNamed?
  rw [Json.unrepeated_insert known h]
  -- of the members that are looked at one is new, and is read like its absence
  have hself : Json.valuesOf m.1 (before ++ (m.1, m.2) :: after) = [m.2] :=
    Json.valuesOf_insert_self h
  have hnone := Json.valuesOf_of_notMem h
  simp only [leftOut, List.mem_cons, List.not_mem_nil, or_false] at hm
  rcases hm with rfl | rfl | rfl
  · simp (disch := decide) only [hself, hnone, Json.valuesOf_insert_of_ne]
    rfl
  · simp (disch := decide) only [hself, hnone, Json.valuesOf_insert_of_ne, Json.orElse?,
      Json.text?_ofText]
  · simp (disch := decide) only [hself, hnone, Json.valuesOf_insert_of_ne, Json.orElse?,
      Json.bool?]

end RefreshClaims

/-! ## Both kinds of claims -/

/-- Claims of access tokens, of which none has the name of a member of the token, and all
claims of refresh tokens read back from the documents that are written for them, and
every document that holds claims holds such, so that reading, writing and reading again
is reading once. A document holds the same claims of a refresh token with and without
members that are not known, and the optional members of both kinds hold the same if they
are left out as if they have their default. -/
theorem claims_round_trip :
    RoundTrips AccessClaims.Proper AccessClaims.toJson AccessClaims.ofJson? ∧
      RoundTrips (fun _ => True) RefreshClaims.toJson RefreshClaims.ofJson? ∧
      (∀ name, name ∉ RefreshClaims.known → Json.Unread RefreshClaims.ofJson? name) ∧
      Json.Omissible AccessClaims.ofJson? "refreshed_at" .null ∧
      ∀ m ∈ RefreshClaims.leftOut, Json.Omissible RefreshClaims.ofJson? m.1 m.2 := by
  refine ⟨?_, ?_, fun name h => RefreshClaims.unread_of_notMem_known h,
    AccessClaims.omissible_refreshedAt, fun m hm => RefreshClaims.omissible_of_mem_leftOut hm⟩
  · exact roundTrips_of AccessClaims.wellFormed_toJson
      (fun c hc => AccessClaims.ofJson?_toJson hc) fun j c h => AccessClaims.proper_of_ofJson? h
  · exact roundTrips_of RefreshClaims.wellFormed_toJson
      (fun c _ => RefreshClaims.ofJson?_toJson c) fun _ _ _ => trivial

/-- The claims of a refresh token that says no more than it has to. -/
def sparseClaims : RefreshClaims where
  username := none
  address := ""
  issuedAt := 1
  expiry := 2
  absoluteExpiry := 3
  valid := false

/-- Claims with a name and a value that are not plain. -/
def foreignClaims : AccessClaims where
  issuer := "tokenward"
  expiry := -1
  refreshedAt := none
  fields := NameMap.empty.insert "größe" "\"\\ λ"

/-- A sparse object holds the sparse claims, with a member that is not known and a name
that is null, and they are read again from what is written for them. So are claims with
other texts than plain ones. -/
theorem claims_round_trip_sparse :
    "jti" ∉ RefreshClaims.known ∧ ("username", Json.null) ∈ RefreshClaims.leftOut ∧
      RefreshClaims.ofJson? (.ofMembers [("jti", .bool true), ("username", .null),
        ("iat", .ofInt64 1), ("exp", .ofInt64 2), ("aexp", .ofInt64 3)]) = some sparseClaims ∧
      Json.decode? RefreshClaims.ofJson? sparseClaims.toJson.write = some sparseClaims ∧
      foreignClaims.Proper ∧
      Json.decode? AccessClaims.ofJson? foreignClaims.toJson.write = some foreignClaims := by
  obtain ⟨haccess, hrefresh, hunread, -, homissible⟩ := claims_round_trip
  have hname : "jti" ∉ RefreshClaims.known := by decide
  have hleft : ("username", Json.null) ∈ RefreshClaims.leftOut := List.mem_cons_self
  have hproper : ∀ name ∈ AccessClaims.known, foreignClaims.fields.get? name = none := by decide
  refine ⟨hname, hleft, ?_, hrefresh.decode_write _ trivial, hproper,
    haccess.decode_write _ hproper⟩
  have hskip := hunread "jti" hname (.bool true) [] [("username", .null), ("iat", .ofInt64 1),
    ("exp", .ofInt64 2), ("aexp", .ofInt64 3)]
  have hnull := homissible _ hleft [] [("iat", .ofInt64 1), ("exp", .ofInt64 2),
    ("aexp", .ofInt64 3)] (by decide)
  refine hskip.trans (hnull.trans ?_)
  rw [List.nil_append, RefreshClaims.ofJson?_ofMembers]
  simp [RefreshClaims.ofNamed?, RefreshClaims.known, Json.unrepeated, Json.valuesOf,
    Json.optional?, Json.required?, Json.orElse?, sparseClaims]

end BearerAuth
