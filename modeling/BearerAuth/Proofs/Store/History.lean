import BearerAuth.Proofs.Store.Kept
import BearerAuth.Proofs.Store.Users

/-!
# Histories of the users in memory

Users in memory are asked to create, to authenticate and to show users, in any
order. What is held under a name is decided by the first creation that gets as
far as a record of that name, and by nothing else.

- `Users.Call`, `Users.Answer`: what the users are asked and what is answered.
- `Users.run`: the users after a list of calls.
- `Users.get?_run`: the record held under a name after a run.
- `Users.answer_of_prepare`: when a creation succeeds and when the name is taken.
- `Users.history`: all of that in one, with what every record that is held has.
-/

namespace BearerAuth.Users

/-- A call of the users in memory. -/
inductive Call where
  | create (salt : Password.Salt) (supplied : Fields)
  | authenticate (name password : String)
  | info (name password : String)

/-- The answer to a call; a creation that leaves the calendar has none. -/
inductive Answer where
  | created
  | record (record : Fields)
  | refused (why : StoreError)
  | fault
  deriving DecidableEq

/-- The answer to one call. -/
def answer (s : Schema) (u : Users) : Call → Answer
  | .create salt supplied =>
    match u.create s salt supplied with
    | .error _ => .fault
    | .ok (.error why) => .refused why
    | .ok (.ok _) => .created
  | .authenticate name password =>
    match u.authenticate name password with
    | .error why => .refused why
    | .ok record => .record record
  | .info name password =>
    match u.info s name password with
    | .error why => .refused why
    | .ok record => .record record

/-- The users after one call. Only a creation that succeeds changes them. -/
def after (s : Schema) (u : Users) : Call → Users
  | .create salt supplied =>
    match u.create s salt supplied with
    | .ok (.ok next) => next
    | _ => u
  | _ => u

/-- The users after the calls. -/
def run (s : Schema) (u : Users) (calls : List Call) : Users :=
  calls.foldl (after s) u

/-- The answers to the calls, in order. -/
def answers (s : Schema) (u : Users) : List Call → List Answer
  | [] => []
  | call :: rest => u.answer s call :: (u.after s call).answers s rest

/-- The record that a call prepares for the user of a name, if it is a creation
that gets as far as that. -/
def preparedAs (s : Schema) (name : String) : Call → Option Fields
  | .create salt supplied =>
    match s.prepare salt supplied with
    | .ok (.ok record) => if s.nameOf record = name then some record else none
    | _ => none
  | _ => none

variable {s : Schema}

/-! ## One call -/

/-- A call creates a user, or it changes nothing. -/
theorem after_of_answer_ne {u : Users} {call : Call} (h : u.answer s call ≠ .created) :
    u.after s call = u := by
  cases call with
  | authenticate name password => rfl
  | info name password => rfl
  | create salt supplied =>
    rcases hcreate : u.create s salt supplied with fault | why | next
    · rw [after, hcreate]
    · rw [after, hcreate]
    · rw [answer, hcreate] at h
      exact absurd rfl h

/-- What a call that creates a user goes through. -/
theorem of_answer_eq_created {u : Users} {call : Call} (h : u.answer s call = .created) :
    ∃ salt supplied record, call = .create salt supplied ∧
      s.prepare salt supplied = .ok (.ok record) ∧ u.get? (s.nameOf record) = none ∧
      u.after s call = u.concat (s.nameOf record) record := by
  cases call with
  | authenticate name password =>
    rw [answer] at h
    split at h <;> cases h
  | info name password =>
    rw [answer] at h
    split at h <;> cases h
  | create salt supplied =>
    rcases hcreate : u.create s salt supplied with fault | why | next
    · rw [answer, hcreate] at h
      cases h
    · rw [answer, hcreate] at h
      cases h
    · obtain ⟨record, hprepare, hfree, hnext⟩ := create_eq_ok_iff.1 hcreate
      exact ⟨salt, supplied, record, rfl, hprepare, hfree, by rw [after, hcreate, hnext]⟩

/-- A creation that gets as far as a record succeeds if the name is free. -/
theorem answer_of_prepare {u : Users} {salt : Password.Salt} {supplied record : Fields}
    (h : s.prepare salt supplied = .ok (.ok record)) :
    u.answer s (.create salt supplied) =
      if (u.get? (s.nameOf record)).isSome then .refused .userExists else .created := by
  rw [answer, create, h]
  dsimp only [add]
  cases u.get? (s.nameOf record) with
  | none => rfl
  | some found => rfl

/-- A creation that is prepared is one under the name of its record, and under no other. -/
theorem preparedAs_of_prepare {salt : Password.Salt} {supplied record : Fields}
    (h : s.prepare salt supplied = .ok (.ok record)) (name : String) :
    preparedAs s name (.create salt supplied) =
      if s.nameOf record = name then some record else none := by
  rw [preparedAs, h]

/-- Whoever is prepared under a name was to be created, with a record of that name. -/
theorem of_preparedAs {name : String} {call : Call} {record : Fields}
    (h : preparedAs s name call = some record) :
    ∃ salt supplied, call = .create salt supplied ∧
      s.prepare salt supplied = .ok (.ok record) ∧ s.nameOf record = name := by
  unfold preparedAs at h
  split at h
  · next salt supplied =>
    split at h
    · next prepared hprepare =>
      split at h
      · next hname =>
        obtain rfl := Option.some.inj h
        exact ⟨salt, supplied, rfl, hprepare, hname⟩
      · cases h
    · cases h
  · cases h

/-- What a name holds after a call: what it held before, else the record that the
call prepares for it. -/
theorem get?_after (s : Schema) (u : Users) (call : Call) (name : String) :
    (u.after s call).get? name = (u.get? name).or (preparedAs s name call) := by
  by_cases hcreated : u.answer s call = .created
  · obtain ⟨salt, supplied, record, rfl, hprepare, hfree, hafter⟩ := of_answer_eq_created hcreated
    rw [hafter, get?_concat, preparedAs_of_prepare hprepare]
    congr 1
    exact if_congr eq_comm rfl rfl
  · rw [after_of_answer_ne hcreated]
    cases hprepared : preparedAs s name call with
    | none => rw [Option.or_none]
    | some record =>
      -- the call got as far as a record, so that the name must have been taken
      obtain ⟨salt, supplied, rfl, hprepare, rfl⟩ := of_preparedAs hprepared
      rw [answer_of_prepare hprepare] at hcreated
      cases hheld : u.get? (s.nameOf record) with
      | some held => rfl
      | none =>
        rw [hheld] at hcreated
        exact absurd rfl hcreated

/-! ## Runs -/

theorem run_cons (s : Schema) (u : Users) (call : Call) (rest : List Call) :
    u.run s (call :: rest) = (u.after s call).run s rest := rfl

theorem run_concat (s : Schema) (u : Users) (calls : List Call) (call : Call) :
    u.run s (calls ++ [call]) = (u.run s calls).after s call := by
  rw [run, List.foldl_append]
  rfl

/-- What a name holds after a run: what it held before, else the record of the
first call that prepares one for it. -/
theorem get?_run (s : Schema) (u : Users) (calls : List Call) (name : String) :
    (u.run s calls).get? name = (u.get? name).or (calls.findSome? (preparedAs s name)) := by
  induction calls generalizing u with
  | nil => exact (Option.or_none).symm
  | cons call rest ih =>
    rw [run_cons, ih, get?_after, List.findSome?_cons]
    cases u.get? name with
    | some record => rfl
    | none =>
      cases preparedAs s name call with
      | some record => rfl
      | none => rfl

/-- From no users on, a name holds the record of the first call that prepares
one for it. -/
theorem get?_run_empty (s : Schema) (calls : List Call) (name : String) :
    (empty.run s calls).get? name = calls.findSome? (preparedAs s name) := by
  rw [get?_run]
  rfl

/-- Every successful creation makes one user more, and nothing else does. -/
theorem size_run (s : Schema) (u : Users) (calls : List Call) :
    (u.run s calls).size = u.size + (u.answers s calls).count .created := by
  induction calls generalizing u with
  | nil => rfl
  | cons call rest ih =>
    rw [run_cons, ih, answers, List.count_cons]
    by_cases hcreated : u.answer s call = .created
    · obtain ⟨salt, supplied, record, -, -, -, hafter⟩ := of_answer_eq_created hcreated
      have hsize : (u.after s call).size = u.size + 1 := by
        rw [hafter, size, concat, List.length_append, List.length_singleton]
        rfl
      rw [hsize, if_pos (beq_iff_eq.2 hcreated)]
      omega
    · rw [after_of_answer_ne hcreated, if_neg (by simpa using hcreated), Nat.add_zero]

/-- A user under a free name shares it with nobody. -/
theorem nodup_concat {u : Users} {name : String} {record : Fields}
    (h : (u.entries.map (·.1)).Nodup) (hfree : u.get? name = none) :
    ((u.concat name record).entries.map (·.1)).Nodup := by
  show ((u.entries ++ [(name, record)]).map (·.1)).Nodup
  rw [List.map_append, List.map_singleton]
  refine List.nodup_append.2 ⟨h, List.pairwise_singleton _ _, fun a ha b hb => ?_⟩
  obtain ⟨e, he, rfl⟩ := List.mem_map.1 ha
  rw [List.mem_singleton.1 hb]
  exact NameMap.lookup_eq_none.1 hfree e he

/-- No name is there twice. -/
theorem nodup_run {u : Users} (h : (u.entries.map (·.1)).Nodup) (calls : List Call) :
    ((u.run s calls).entries.map (·.1)).Nodup := by
  induction calls generalizing u with
  | nil => exact h
  | cons call rest ih =>
    rw [run_cons]
    refine ih ?_
    by_cases hcreated : u.answer s call = .created
    · obtain ⟨salt, supplied, record, -, -, hfree, hafter⟩ := of_answer_eq_created hcreated
      rw [hafter]
      exact nodup_concat h hfree
    · rw [after_of_answer_ne hcreated]
      exact h

/-- Every record that is held was prepared by a call of the run. -/
theorem of_get?_run {calls : List Call} {name : String} {record : Fields}
    (h : (empty.run s calls).get? name = some record) :
    ∃ salt supplied, .create salt supplied ∈ calls ∧
      s.prepare salt supplied = .ok (.ok record) ∧ s.nameOf record = name := by
  rw [get?_run_empty] at h
  obtain ⟨call, hcall, hprepared⟩ := List.exists_of_findSome?_eq_some h
  obtain ⟨salt, supplied, rfl, hprepare, hname⟩ := of_preparedAs hprepared
  exact ⟨salt, supplied, hcall, hprepare, hname⟩

/-- Users in memory from the first call on. A name holds the record of the first
creation that prepares one for it, and every later one finds the name taken; a
call that creates nobody changes nothing; there are as many users as successful
creations, no two under one name; and every record that is held fits the schema
and keeps the hash of the password that its user was created with. -/
theorem history {table : TableDescription} (hs : Schema.ofDescription table = .ok s)
    (calls : List Call) :
    (∀ name, (empty.run s calls).get? name = calls.findSome? (preparedAs s name)) ∧
    (∀ past salt supplied future record, calls = past ++ .create salt supplied :: future →
      s.prepare salt supplied = .ok (.ok record) →
      (empty.run s past).answer s (.create salt supplied) =
        if (past.findSome? (preparedAs s (s.nameOf record))).isSome then .refused .userExists
        else .created) ∧
    (∀ past call future, calls = past ++ call :: future →
      (empty.run s past).answer s call ≠ .created ∨
        (∀ salt supplied, call ≠ .create salt supplied) →
      empty.run s (past ++ [call]) = empty.run s past) ∧
    (empty.run s calls).size = (empty.answers s calls).count .created ∧
    ((empty.run s calls).entries.map (·.1)).Nodup ∧
    ∀ name record, (empty.run s calls).get? name = some record →
      ∃ salt supplied, .create salt supplied ∈ calls ∧
        s.prepare salt supplied = .ok (.ok record) ∧ s.Kept salt supplied name record := by
  have hvalid := Schema.valid_of_ofDescription hs
  refine ⟨get?_run_empty s calls, ?_, ?_, ?_, nodup_run (u := empty) List.nodup_nil calls, ?_⟩
  · intro past salt supplied future record _ hprepare
    rw [answer_of_prepare hprepare, get?_run_empty]
  · intro past call future _ hcall
    rw [run_concat]
    refine after_of_answer_ne ?_
    rcases hcall with hanswer | hother
    · exact hanswer
    · intro hcreated
      obtain ⟨salt, supplied, -, hcreate, -⟩ := of_answer_eq_created hcreated
      exact hother salt supplied hcreate
  · rw [size_run]
    exact Nat.zero_add _
  · intro name record hheld
    obtain ⟨salt, supplied, hcall, hprepare, rfl⟩ := of_get?_run hheld
    exact ⟨salt, supplied, hcall, hprepare, hvalid.kept_of_prepare hprepare⟩

/-- Grace signs up at the desk, somebody tries her name, and she signs up again. -/
def graceCalls : List Call :=
  [.create Schema.deskSalt (Schema.deskSupplied "grace"), .info "grace" "guess",
    .create Schema.deskSalt (Schema.deskSupplied "grace")]

theorem firstPrepared_grace (rest : List Call) :
    (.create Schema.deskSalt (Schema.deskSupplied "grace") :: rest).findSome?
      (preparedAs .readers "grace") = some (Schema.deskRecord Schema.deskSalt "grace") := by
  rw [List.findSome?_cons, preparedAs_of_prepare (Schema.prepare_deskSupplied _ _),
    Schema.nameOf_deskRecord, if_pos rfl]

/-- The record of Grace is the one of the first time, and the second time her
name is taken. -/
theorem history_grace :
    Schema.ofDescription Schema.readersTable = .ok .readers ∧
      (empty.run .readers graceCalls).get? "grace" =
        some (Schema.deskRecord Schema.deskSalt "grace") ∧
      (empty.run .readers (graceCalls.take 2)).answer .readers
        (.create Schema.deskSalt (Schema.deskSupplied "grace")) = .refused .userExists ∧
      ∃ salt supplied, Schema.readers.Kept salt supplied "grace"
        (Schema.deskRecord Schema.deskSalt "grace") := by
  obtain ⟨hget, hanswer, -, -, -, hkept⟩ := history Schema.ofDescription_readersTable graceCalls
  have hheld := (hget "grace").trans (firstPrepared_grace _)
  have hsecond := hanswer (graceCalls.take 2) _ _ [] _ rfl (Schema.prepare_deskSupplied _ _)
  obtain ⟨salt, supplied, -, -, hfits⟩ := hkept "grace" _ hheld
  refine ⟨Schema.ofDescription_readersTable, hheld, ?_, salt, supplied, hfits⟩
  rw [hsecond, Schema.nameOf_deskRecord]
  exact if_pos (Option.isSome_iff_exists.2 ⟨_, firstPrepared_grace _⟩)

end BearerAuth.Users
