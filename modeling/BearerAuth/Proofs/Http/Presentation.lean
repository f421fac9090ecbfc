import BearerAuth.Http.Router
import BearerAuth.Proofs.Service.Login
import BearerAuth.Proofs.Text.Blank

/-!
# How an access token is presented

An access token comes in the header of its own, or as a bearer token among the credentials
that any service may ask for. The blanks around it are cut in other places then: those around
a bearer token only after those around the whole value, so that of a blank token not even the
space after the word is left. It makes no difference for the response.

- `Request.SameBut`: requests that may differ in some headers. `Request.ReadAlike`: requests
  that the service cannot tell apart, and so answers alike (`Service.respond_congr`).
- `presented`: the token that a text presents.
- `Request.accessToken_of_direct`, `Request.accessToken_of_bearer`: what becomes of a text in
  either header.
- `Service.either_presentation`: the two ways are one, and with the first the second does not
  count.
-/

namespace BearerAuth

open Time Http

namespace Http

namespace Request

variable {r other : Request} {name : String} {names : List String}

/-! ## What is read of a request -/

/-- The requests are the same, but for headers with the names. -/
structure SameBut (names : List String) (r other : Request) : Prop where
  method : r.method = other.method
  path : r.path = other.path
  peer : r.peer = other.peer
  headers : (r.headers.filter fun h => lowerCase h.1 ∉ names) =
    other.headers.filter fun h => lowerCase h.1 ∉ names

/-- Nothing that is read of one request is another thing in the other. -/
structure ReadAlike (r other : Request) : Prop where
  method : r.method = other.method
  path : r.path = other.path
  peer : r.peer = other.peer
  userFields : ∀ s, r.userFields s = other.userFields s
  credentials : r.credentials = other.credentials
  accessToken : r.accessToken = other.accessToken
  refreshToken : r.refreshToken = other.refreshToken

/-- Headers with other names do not matter for a header. -/
theorem header?_eq_find?_filter (r : Request) (hname : name ∉ names) :
    r.header? name =
      ((r.headers.filter fun h => lowerCase h.1 ∉ names).find? fun h =>
        lowerCase h.1 == name).map (·.2) := by
  rw [header?, List.find?_filter]
  congr 2
  funext h
  by_cases heq : lowerCase h.1 = name
  · simp [heq, hname]
  · simp [heq]

theorem SameBut.header?_eq (h : r.SameBut names other) (hname : name ∉ names) :
    r.header? name = other.header? name := by
  rw [r.header?_eq_find?_filter hname, other.header?_eq_find?_filter hname, h.headers]

theorem SameBut.value_eq (h : r.SameBut names other) (hname : name ∉ names) :
    r.value name = other.value name := by
  rw [value, value, h.header?_eq hname]

theorem SameBut.required_eq (h : r.SameBut names other) (hname : name ∉ names) :
    r.required name = other.required name := by
  rw [required, required, h.value_eq hname]

/-- Two requests have the same values for columns whose headers they share. -/
theorem SameBut.columnValues_eq (h : r.SameBut names other) {columns : List Column}
    (hnames : ∀ c ∈ columns, columnHeader c.name ∉ names) (fields : Fields) :
    r.columnValues columns fields = other.columnValues columns fields := by
  induction columns generalizing fields with
  | nil => rfl
  | cons c rest ih =>
    have hrest := ih fun d hd => hnames d (List.mem_cons_of_mem _ hd)
    rw [columnValues, columnValues, h.value_eq (hnames c List.mem_cons_self)]
    cases other.value (columnHeader c.name) with
    | error e => rfl
    | ok found =>
      cases found with
      | none => exact hrest fields
      | some s => exact hrest _

/-- The headers for columns are no headers for access tokens. -/
theorem columnHeader_notMem (column : String) :
    columnHeader column ∉ [accessTokenHeader, authorizationHeader] := by
  have hthird : (columnHeader column).toList[2]? = some 'u' := by
    rw [columnHeader, String.toList_append]
    rfl
  intro h
  rcases List.mem_cons.1 h with h | h
  · rw [h] at hthird
    exact absurd hthird (by decide)
  · rw [List.mem_singleton.1 h] at hthird
    exact absurd hthird (by decide)

/-- What requests that differ in headers for access tokens have in common, but for the
token. -/
theorem SameBut.readAlike (h : r.SameBut names other)
    (hnames : names ⊆ [accessTokenHeader, authorizationHeader])
    (htoken : r.accessToken = other.accessToken) : r.ReadAlike other where
  method := h.method
  path := h.path
  peer := h.peer
  userFields s := h.columnValues_eq (fun c _ hc => columnHeader_notMem c.name (hnames hc)) _
  credentials := by
    have husername : usernameHeader ∉ names := fun hmem => absurd (hnames hmem) (by decide)
    have hpassword : passwordHeader ∉ names := fun hmem => absurd (hnames hmem) (by decide)
    rw [credentials, credentials, h.required_eq husername, h.required_eq hpassword]
  accessToken := htoken
  refreshToken := h.required_eq fun hmem => absurd (hnames hmem) (by decide)

/-! ## Values of headers -/

/-- A header that is absent has no value. -/
theorem value_of_header?_eq_none (h : r.header? name = none) : r.value name = .ok none := by
  rw [value, h]

/-- A header of text has that text without the blanks around it, and none of nothing but
blanks. -/
theorem value_of_header?_eq_some {text : String} (h : r.header? name = some (Text.utf8 text)) :
    r.value name =
      .ok (if Text.trim text = "" then none else some (Text.trim text)) := by
  rw [value, h]
  dsimp only
  rw [Text.ofUtf8?_utf8]

end Request

/-! ## Tokens -/

/-- The token that a text presents: what it is without the blanks around it, if anything. -/
def presented (text : String) : Except HeaderError String :=
  if Text.blank text = true then .error (.missing accessTokenHeader) else .ok (Text.trim text)

/-- The two spellings of the word for bearer tokens. -/
def bearerWords : List (List Char) := ["Bearer".toList, "bearer".toList]

/-- A bearer token, in the spelling of the word for it. -/
def asBearer (word : List Char) (text : String) : String :=
  String.ofList (word ++ ' ' :: text.toList)

theorem toList_asBearer (word : List Char) (text : String) :
    (asBearer word text).toList = word ++ ' ' :: text.toList :=
  String.toList_ofList

section

variable {word : List Char} (hword : word ∈ bearerWords)
include hword

theorem unpadded_word : Text.Unpadded word := by
  revert word
  decide

/-- A word counts only with the space behind it. -/
theorem bearer?_word : bearer? (String.ofList word) = none := by
  simp only [bearerWords, List.mem_cons, List.not_mem_nil, or_false] at hword
  rcases hword with rfl | rfl <;> rfl

/-- What follows the word and a space is the token. -/
theorem bearer?_append (rest : List Char) :
    bearer? (String.ofList (word ++ ' ' :: rest)) = some (String.ofList rest) := by
  rw [bearer?, String.toList_ofList]
  simp only [bearerWords, List.mem_cons, List.not_mem_nil, or_false] at hword
  rcases hword with rfl | rfl <;> rfl

theorem ofList_word_ne_empty : ¬String.ofList word = "" := by
  simp only [bearerWords, List.mem_cons, List.not_mem_nil, or_false] at hword
  rcases hword with rfl | rfl <;> decide

/-- The word and a text that does not end in a blank have no blanks around them. -/
theorem unpadded_append {rest : List Char} {last : Char} (hrest : rest.getLast? = some last)
    (hlast : Text.isBlank last = false) : Text.Unpadded (word ++ ' ' :: rest) := by
  have hend : (word ++ ' ' :: rest).getLast? = some last := by
    rw [List.getLast?_append, List.getLast?_cons, hrest]
    rfl
  refine ⟨?_, fun c hc => ?_⟩
  · simp only [bearerWords, List.mem_cons, List.not_mem_nil, or_false] at hword
    rcases hword with rfl | rfl
    · intro c hc
      obtain rfl : 'B' = c := Option.some.inj hc
      decide
    · intro c hc
      obtain rfl : 'b' = c := Option.some.inj hc
      decide
  · rw [hend] at hc
    exact Option.some.inj hc ▸ hlast

/-- Of a bearer token without anything but blanks the word is left. -/
theorem trim_asBearer_of_blank {text : String} (h : Text.blank text = true) :
    Text.trim (asBearer word text) = String.ofList word := by
  have hafter : ∀ c ∈ ' ' :: text.toList, Text.isBlank c = true :=
    List.forall_mem_cons.2 ⟨by decide, List.all_eq_true.1 h⟩
  rw [Text.trim, toList_asBearer, Text.trimList_append_right hafter (unpadded_word hword)]

/-- Of any other bearer token the blanks behind it are cut, and those before it only once
the word is gone. -/
theorem exists_trim_asBearer {text : String} (h : Text.blank text = false) :
    ∃ rest, Text.trim (asBearer word text) = String.ofList (word ++ ' ' :: rest) ∧
      Text.trimList rest = Text.trimList text.toList := by
  obtain ⟨hcore, before, after, htext, hbefore, hafter⟩ := Text.exists_trimList text.toList
  have hne : Text.trimList text.toList ≠ [] := by
    intro hempty
    rw [Text.trimList_eq_nil_iff, ← List.all_eq_true] at hempty
    exact Bool.eq_false_iff.1 h hempty
  obtain ⟨last, hlast⟩ := Option.ne_none_iff_exists'.1 (mt List.getLast?_eq_none_iff.1 hne)
  refine ⟨before ++ Text.trimList text.toList, ?_, ?_⟩
  · have hend : (before ++ Text.trimList text.toList).getLast? = some last := by
      rw [List.getLast?_append, hlast]
      rfl
    have hsplit : word ++ ' ' :: text.toList =
        word ++ ' ' :: (before ++ Text.trimList text.toList) ++ after := by
      rw [List.append_assoc, List.cons_append, ← htext]
    rw [Text.trim, toList_asBearer, hsplit, Text.trimList_append_right hafter
      (unpadded_append hword hend (hcore.2 last hlast))]
  · exact Text.trimList_append_left hbefore hcore

end

namespace Request

variable {r other : Request} {text : String}

/-- What becomes of a text in the header for access tokens. -/
theorem accessToken_of_direct (hdirect : r.header? accessTokenHeader = some (Text.utf8 text))
    (hnone : r.header? authorizationHeader = none) : r.accessToken = presented text := by
  rw [accessToken, value_of_header?_eq_some hdirect, value_of_header?_eq_none hnone, presented]
  by_cases hblank : Text.blank text = true
  · rw [if_pos hblank, if_pos (Text.trim_eq_empty_iff.2 hblank)]
    rfl
  · rw [if_neg hblank, if_neg (mt Text.trim_eq_empty_iff.1 hblank)]

/-- What becomes of a text behind the word for bearer tokens. -/
theorem accessToken_of_bearer {word : List Char} (hword : word ∈ bearerWords)
    (hnone : r.header? accessTokenHeader = none)
    (hbearer : r.header? authorizationHeader = some (Text.utf8 (asBearer word text))) :
    r.accessToken = presented text := by
  rw [accessToken, value_of_header?_eq_none hnone, value_of_header?_eq_some hbearer, presented]
  by_cases hblank : Text.blank text = true
  · rw [if_pos hblank, trim_asBearer_of_blank hword hblank, if_neg (ofList_word_ne_empty hword)]
    dsimp only
    rw [Option.bind_some, bearer?_word hword]
    rfl
  · obtain ⟨rest, htrim, hrest⟩ := exists_trim_asBearer hword (Bool.eq_false_iff.2 hblank)
    have hsome : ¬String.ofList (word ++ ' ' :: rest) = "" := by simp
    have hsame : Text.trim (String.ofList rest) = Text.trim text := by
      rw [Text.trim, String.toList_ofList, hrest, Text.trim]
    rw [if_neg hblank, htrim, if_neg hsome]
    dsimp only
    rw [Option.bind_some, bearer?_append hword, Option.map_some, hsame]
    exact if_neg (mt Text.trim_eq_empty_iff.1 hblank)

/-- Once there is a token in the header of its own, the credentials for any service are not
looked at. -/
theorem accessToken_congr {bytes : List UInt8}
    (hsame : r.SameBut [authorizationHeader] other)
    (hdirect : r.header? accessTokenHeader = some bytes)
    (hsome : ∀ text, Text.ofUtf8? bytes = some text → Text.blank text = false) :
    r.accessToken = other.accessToken := by
  have hvalue : r.value accessTokenHeader ≠ .ok none := by
    rw [value, hdirect]
    dsimp only
    cases htext : Text.ofUtf8? bytes with
    | none => simp
    | some text =>
      have hne := mt Text.trim_eq_empty_iff.1 (Bool.eq_false_iff.1 (hsome text htext))
      simp [hne]
  have hother : accessTokenHeader ∉ [authorizationHeader] := by decide
  rw [accessToken, accessToken, ← hsame.value_eq hother]
  rcases hfound : r.value accessTokenHeader with e | _ | token
  · rfl
  · exact absurd hfound hvalue
  · rfl

end Request

end Http

namespace Service

variable {r other : Request}

/-! ## Responses -/

/-- What the service cannot tell apart it answers alike. -/
theorem respond_congr (s : Service) (now : Instant) (salt : Password.Salt)
    (h : r.ReadAlike other) : s.respond now salt r = s.respond now salt other := by
  have hperform : ∀ o, s.perform now salt r o = s.perform now salt other o := by
    intro o
    cases o with
    | createUser =>
      rw [perform, perform, createUserResponse, createUserResponse, h.userFields]
    | generateToken =>
      rw [perform, perform, generateTokenResponse, generateTokenResponse, h.credentials, h.peer]
    | verifyToken =>
      rw [perform, perform, verifyTokenResponse, verifyTokenResponse, h.accessToken]
    | refreshToken =>
      rw [perform, perform, refreshTokenResponse, refreshTokenResponse, h.accessToken,
        h.refreshToken]
  rw [respond, respond, h.method, h.path]
  simp only [hperform]

/-- A request with a text in the header for access tokens, and no credentials for any
service, gets the response that it gets with the text as a bearer token, and without that
header; in both cases the token is the text without the blanks around it, and without
anything else there is no token. And a request with a token in the header of its own gets
the same response whatever other credentials come with it. -/
theorem either_presentation (s : Service) (now : Instant) (salt : Password.Salt) :
    (∀ r other text, ∀ word ∈ bearerWords,
      r.SameBut [accessTokenHeader, authorizationHeader] other →
      r.header? accessTokenHeader = some (Text.utf8 text) →
      r.header? authorizationHeader = none →
      other.header? accessTokenHeader = none →
      other.header? authorizationHeader = some (Text.utf8 (asBearer word text)) →
      s.respond now salt r = s.respond now salt other ∧
        r.accessToken = presented text ∧ other.accessToken = presented text) ∧
    ∀ r other bytes, r.SameBut [authorizationHeader] other →
      r.header? accessTokenHeader = some bytes →
      (∀ text, Text.ofUtf8? bytes = some text → Text.blank text = false) →
      s.respond now salt r = s.respond now salt other := by
  constructor
  · intro r other text word hword hsame hdirect hnone hother hbearer
    have htoken := Request.accessToken_of_direct hdirect hnone
    have hotherToken := Request.accessToken_of_bearer hword hother hbearer
    have halike := hsame.readAlike (List.Subset.refl _) (htoken.trans hotherToken.symm)
    exact ⟨s.respond_congr now salt halike, htoken, hotherToken⟩
  · intro r other bytes hsame hdirect hsome
    have htoken := Request.accessToken_congr hsame hdirect hsome
    exact s.respond_congr now salt (hsame.readAlike (List.subset_cons_self _ _) htoken)

/-! ## A padded token -/

/-- A text for a token, with a blank on either side that is not the same. -/
def paddedToken : String := "\u00a0a.b.c "

/-- The text in the header for access tokens. -/
def directPost : Request where
  method := "POST"
  path := "/verifyToken"
  headers := [("X-Access-Token", Text.utf8 paddedToken), ("accept", Text.utf8 "*/*")]
  peer := none

/-- The text as a bearer token. -/
def bearerPost : Request where
  method := "POST"
  path := "/verifyToken"
  headers :=
    [("accept", Text.utf8 "*/*"),
      ("Authorization", Text.utf8 (asBearer "bearer".toList paddedToken))]
  peer := none

/-- The text in the header for access tokens, with credentials that are no text at all. -/
def crowdedPost : Request where
  method := "POST"
  path := "/verifyToken"
  headers :=
    [("Authorization", [0xff, 0xfe]), ("X-Access-Token", Text.utf8 paddedToken),
      ("accept", Text.utf8 "*/*")]
  peer := none

/-- However the padded token is presented, the response is the same. -/
theorem either_presentation_padded :
    directPost.SameBut [accessTokenHeader, authorizationHeader] bearerPost ∧
      directPost.SameBut [authorizationHeader] crowdedPost ∧
      presented paddedToken = .ok "a.b.c" ∧
      memberService.respond (.ofSeconds 60) adaSalt directPost =
        memberService.respond (.ofSeconds 60) adaSalt bearerPost ∧
      memberService.respond (.ofSeconds 60) adaSalt directPost =
        memberService.respond (.ofSeconds 60) adaSalt crowdedPost := by
  have hbearer : directPost.SameBut [accessTokenHeader, authorizationHeader] bearerPost :=
    ⟨rfl, rfl, rfl, by decide +kernel⟩
  have hcrowded : directPost.SameBut [authorizationHeader] crowdedPost :=
    ⟨rfl, rfl, rfl, by decide +kernel⟩
  have hdirect : directPost.header? accessTokenHeader = some (Text.utf8 paddedToken) := by
    decide +kernel
  obtain ⟨heither, hfirst⟩ := either_presentation memberService (.ofSeconds 60) adaSalt
  refine ⟨hbearer, hcrowded, by decide +kernel, ?_, ?_⟩
  · exact (heither directPost bearerPost paddedToken "bearer".toList (by decide) hbearer hdirect
      (by decide +kernel) (by decide +kernel) (by decide +kernel)).1
  · refine hfirst directPost crowdedPost _ hcrowded hdirect fun text htext => ?_
    rw [Text.ofUtf8?_utf8] at htext
    exact Option.some.inj htext ▸ by decide +kernel

end Service

end BearerAuth
