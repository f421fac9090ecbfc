import BearerAuth.Proofs.NameMap
import BearerAuth.Proofs.Password.Hash
import BearerAuth.Proofs.Store.Record
import BearerAuth.Store.Users

/-!
# Users come to stay

A user is added under a name that is free, and from then on nothing changes the
record of that name.

- `Users.create_eq_ok_iff`: what the creation of a user goes through and what
  comes out of it.
- `Users.get?_of_create`, `Users.get?_created`: earlier users stay, and the new
  one is found.
- `unlock_prepared`: the password that was given for a new user unlocks the
  record of the user.
-/

namespace BearerAuth

namespace Users

/-- The users with one more at the end. -/
def concat (u : Users) (name : String) (record : Fields) : Users :=
  ⟨u.entries ++ [(name, record)]⟩

theorem get?_concat (u : Users) (name : String) (record : Fields) (other : String) :
    (u.concat name record).get? other =
      (u.get? other).or (if other = name then some record else none) := by
  show (u.entries ++ [(name, record)]).lookup other = _
  rw [List.lookup_append]
  congr 1
  show List.lookup other ((name, record) :: []) = _
  rw [NameMap.lookup_cons_eq, List.lookup_nil]

theorem add_eq_ok_iff {u next : Users} {name : String} {record : Fields} :
    u.add name record = .ok next ↔ u.get? name = none ∧ next = u.concat name record := by
  unfold add
  cases h : u.get? name with
  | none =>
    refine ⟨fun heq => ⟨rfl, (Except.ok.inj heq).symm⟩, fun heq => ?_⟩
    rw [heq.2]
    rfl
  | some found =>
    refine ⟨fun heq => ?_, fun heq => ?_⟩
    · cases heq
    · cases heq.1

/-- What the creation of a user goes through and what comes out of it. -/
theorem create_eq_ok_iff {s : Schema} {u next : Users} {salt : Password.Salt} {supplied : Fields} :
    u.create s salt supplied = .ok (.ok next) ↔
      ∃ record, s.prepare salt supplied = .ok (.ok record) ∧ u.get? (s.nameOf record) = none ∧
        next = u.concat (s.nameOf record) record := by
  unfold create
  constructor
  · intro h
    split at h
    · cases h
    · cases h
    · next record hprepare =>
      obtain ⟨hfree, hnext⟩ := add_eq_ok_iff.1 (Except.ok.inj h)
      exact ⟨record, hprepare, hfree, hnext⟩
  · rintro ⟨record, hprepare, hfree, hnext⟩
    rw [hprepare]
    exact congrArg Except.ok (add_eq_ok_iff.2 ⟨hfree, hnext⟩)

/-- Earlier users stay. -/
theorem get?_of_create {s : Schema} {u next : Users} {salt : Password.Salt} {supplied : Fields}
    (h : u.create s salt supplied = .ok (.ok next)) {name : String} {record : Fields}
    (hrecord : u.get? name = some record) : next.get? name = some record := by
  obtain ⟨fresh, -, -, rfl⟩ := create_eq_ok_iff.1 h
  rw [get?_concat, hrecord, Option.some_or]

/-- The new user is found. -/
theorem get?_created {s : Schema} {u next : Users} {salt : Password.Salt} {supplied : Fields}
    (h : u.create s salt supplied = .ok (.ok next)) :
    ∃ record, s.prepare salt supplied = .ok (.ok record) ∧
      next.get? (s.nameOf record) = some record := by
  obtain ⟨record, hprepare, hfree, rfl⟩ := create_eq_ok_iff.1 h
  refine ⟨record, hprepare, ?_⟩
  -- its name was free
  rw [get?_concat, hfree, if_pos rfl, Option.none_or]

end Users

/-- The password that was given for a new user unlocks the record of the user. -/
theorem unlock_prepared {s : Schema} {salt : Password.Salt} {supplied record : Fields}
    (h : s.Prepared salt supplied record) {password : String}
    (hpassword : s.passwordGiven supplied = some password) :
    unlock record password = .ok (record.erase passwordColumn) := by
  rw [unlock, h.get?_password hpassword]
  dsimp only
  rw [Password.verify_hash]

end BearerAuth
