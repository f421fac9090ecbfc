import BearerAuth.Environment
import BearerAuth.Proofs.Except
import BearerAuth.Proofs.Text.Integer
import BearerAuth.Proofs.Token.Engine
import BearerAuth.Service

/-!
# From the environment to the service

The settings are what the variables say, and a service is made of settings if they meet
some requirements. Both are checked in an order, and the first thing that is wrong is
reported. A lifetime is a number of minutes or days times the seconds of one. The product
may be beyond sixty-four bits, and still no number out of bounds makes a lifetime within
them.

- `Configuration.readings`: the variables that may be refused, in order.
- `Configuration.Given`: settings that are what the variables say.
- `Configuration.requirements`: what is asked of settings, in order.
- `Configuration.service_outcome`: what becomes of the variables.
-/

namespace BearerAuth

open Time

namespace Configuration

/-! ## Variables -/

/-- What a variable has to hold: anything at all, or a number or a flag unless it is not
set. -/
inductive Content where
  | secret
  | number (range : Text.Range)
  | flag

/-- A variable that may be refused. -/
structure Reading where
  name : String
  content : Content

/-- The variables that may be refused, in the order in which they are read. -/
def readings : List Reading :=
  [⟨"JWT_SECRET", .secret⟩,
    ⟨"JWT_REFRESH_SECRET", .secret⟩,
    ⟨"TOKEN_EXPIRATION_TIME_MINUTES", .number .int64⟩,
    ⟨"REFRESH_TTL_DAYS", .number .int64⟩,
    ⟨"REFRESH_ABSOLUTE_TTL_DAYS", .number .int64⟩,
    ⟨"ENFORCE_ABSOLUTE_EXPIRY", .flag⟩,
    ⟨"APP_PORT", .number .word16⟩]

/-- Why a variable is refused: it has to be set and is not, or it is set and what is left of
it after trimming is no number of the range, or neither of the two words for flags. -/
def Reading.Refused (lookup : Variables) (v : Reading) (e : VariableError) : Prop :=
  match v.content with
  | .secret => lookup v.name = none ∧ e = .missing v.name
  | .number range => ∃ raw why, lookup v.name = some raw ∧
      range.Reads (Text.trim raw).toList (.error why) ∧ e = .invalid v.name raw (.integer why)
  | .flag => ∃ raw, lookup v.name = some raw ∧ Text.trim raw ≠ "true" ∧ Text.trim raw ≠ "false" ∧
      e = .invalid v.name raw .flag

/-- The number that a variable says, or the one that counts otherwise. -/
def SaysNumber (lookup : Variables) (name : String) (range : Text.Range) (otherwise n : Int) :
    Prop :=
  (lookup name = none ∧ n = otherwise) ∨
    ∃ raw, lookup name = some raw ∧ range.Reads (Text.trim raw).toList (.ok n)

/-- The flag that a variable says, or the one that counts otherwise. -/
def SaysFlag (lookup : Variables) (name : String) (otherwise b : Bool) : Prop :=
  (lookup name = none ∧ b = otherwise) ∨
    ∃ raw, lookup name = some raw ∧
      ((Text.trim raw = "true" ∧ b = true) ∨ (Text.trim raw = "false" ∧ b = false))

/-- The settings are what the variables say. -/
structure Given (lookup : Variables) (c : Configuration) : Prop where
  databaseUrl : ∀ url, c.databaseUrl = some url ↔
    lookup "DATABASE_URL" = some url ∧ Text.blank url = false
  storeConfig : c.storeConfig = (lookup "STORE_CONFIG").getD "configs/store.yml"
  host : c.host = (lookup "APP_HOST").getD "0.0.0.0"
  port : SaysNumber lookup "APP_PORT" .word16 8080 c.port
  accessSecret : lookup "JWT_SECRET" = some c.accessSecret
  refreshSecret : lookup "JWT_REFRESH_SECRET" = some c.refreshSecret
  ttlMinutes : SaysNumber lookup "TOKEN_EXPIRATION_TIME_MINUTES" .int64 15 c.ttlMinutes
  refreshTtlDays : SaysNumber lookup "REFRESH_TTL_DAYS" .int64 3 c.refreshTtlDays
  refreshAbsoluteTtlDays :
    SaysNumber lookup "REFRESH_ABSOLUTE_TTL_DAYS" .int64 15 c.refreshAbsoluteTtlDays
  enforceAbsoluteExpiry :
    SaysFlag lookup "ENFORCE_ABSOLUTE_EXPIRY" false c.enforceAbsoluteExpiry

section

variable {lookup : Variables} {name : String} {range : Text.Range}

theorem required_eq_ok_iff {value : String} :
    required lookup name = .ok value ↔ lookup name = some value := by
  unfold required
  cases lookup name <;> simp

/-- A required variable is refused if it is not set. -/
theorem required_eq_error_iff {e : VariableError} :
    required lookup name = .error e ↔ Reading.Refused lookup ⟨name, .secret⟩ e := by
  show _ ↔ lookup name = none ∧ e = .missing name
  unfold required
  cases lookup name with
  | none => simp [eq_comm]
  | some value => simp

/-- A number is the one that the variable says, or the one for a variable that is not set.
-/
theorem integer_eq_ok_iff (hzero : range.holds 0 = true) {otherwise n : Int} :
    integer lookup name range otherwise = .ok n ↔ SaysNumber lookup name range otherwise n := by
  unfold integer SaysNumber
  cases lookup name with
  | none => simp [eq_comm]
  | some raw =>
    simp only [reduceCtorEq, false_and, false_or, Option.some.injEq, exists_eq_left',
      ← range.read_eq_iff hzero]
    cases range.read (Text.trim raw) <;> simp

/-- A number is refused for a text that is none, with what is wrong with it. -/
theorem integer_eq_error_iff (hzero : range.holds 0 = true) {otherwise : Int}
    {e : VariableError} :
    integer lookup name range otherwise = .error e ↔
      Reading.Refused lookup ⟨name, .number range⟩ e := by
  show _ ↔ ∃ raw why, lookup name = some raw ∧
    range.Reads (Text.trim raw).toList (.error why) ∧ e = .invalid name raw (.integer why)
  unfold integer
  cases lookup name with
  | none => simp
  | some raw =>
    simp only [Option.some.injEq, ← range.read_eq_iff hzero]
    cases hread : range.read (Text.trim raw) with
    | ok n => simp [hread]
    | error why =>
      constructor
      · intro h
        cases h
        exact ⟨raw, why, rfl, hread, rfl⟩
      · rintro ⟨_, other, rfl, hother, rfl⟩
        rw [hread] at hother
        cases hother
        rfl

theorem flag_eq_ok_iff {otherwise b : Bool} :
    flag lookup name otherwise = .ok b ↔ SaysFlag lookup name otherwise b := by
  unfold flag SaysFlag
  cases lookup name with
  | none => simp [eq_comm]
  | some raw =>
    dsimp only
    by_cases htrue : Text.trim raw = "true"
    · simp [htrue, eq_comm]
    · by_cases hfalse : Text.trim raw = "false"
      · simp [hfalse, eq_comm]
      · simp [htrue, hfalse]

/-- A flag is refused for a text that is neither of the two words. -/
theorem flag_eq_error_iff {otherwise : Bool} {e : VariableError} :
    flag lookup name otherwise = .error e ↔ Reading.Refused lookup ⟨name, .flag⟩ e := by
  show _ ↔ ∃ raw, lookup name = some raw ∧ Text.trim raw ≠ "true" ∧ Text.trim raw ≠ "false" ∧
    e = .invalid name raw .flag
  unfold flag
  cases lookup name with
  | none => simp
  | some raw =>
    dsimp only
    by_cases htrue : Text.trim raw = "true"
    · simp [htrue]
    · by_cases hfalse : Text.trim raw = "false"
      · simp [hfalse]
      · simp [htrue, hfalse, @eq_comm _ e]

end

/-- The first variable that is refused is reported. -/
theorem ofVariables_eq_error_iff {lookup : Variables} {e : VariableError} :
    ofVariables lookup = .error e ↔ FirstFault (Reading.Refused lookup) readings e := by
  have hword : Text.Range.word16.holds 0 = true := by decide
  have hint : Text.Range.int64.holds 0 = true := by decide
  unfold ofVariables readings
  refine bind_eq_error_iff_firstFault (fun _ => required_eq_error_iff) fun _ => ?_
  refine bind_eq_error_iff_firstFault (fun _ => required_eq_error_iff) fun _ => ?_
  refine bind_eq_error_iff_firstFault (fun _ => integer_eq_error_iff hint) fun _ => ?_
  refine bind_eq_error_iff_firstFault (fun _ => integer_eq_error_iff hint) fun _ => ?_
  refine bind_eq_error_iff_firstFault (fun _ => integer_eq_error_iff hint) fun _ => ?_
  refine bind_eq_error_iff_firstFault (fun _ => flag_eq_error_iff) fun _ => ?_
  refine bind_eq_error_iff_firstFault (fun _ => integer_eq_error_iff hword) fun _ => ?_
  exact ⟨fun h => (nomatch h), fun h => absurd h not_firstFault_nil⟩

/-- The settings are what the variables say. -/
theorem ofVariables_eq_ok_iff {lookup : Variables} {c : Configuration} :
    ofVariables lookup = .ok c ↔ Given lookup c := by
  have hword : Text.Range.word16.holds 0 = true := by decide
  have hint : Text.Range.int64.holds 0 = true := by decide
  have hurl : ∀ url, (lookup "DATABASE_URL").filter (fun url => !Text.blank url) = some url ↔
      lookup "DATABASE_URL" = some url ∧ Text.blank url = false := by
    intro url
    rw [Option.filter_eq_some_iff]
    simp
  simp only [ofVariables, bind_eq_ok_iff, required_eq_ok_iff, integer_eq_ok_iff hint,
    integer_eq_ok_iff hword, flag_eq_ok_iff]
  constructor
  · rintro ⟨accessSecret, haccess, refreshSecret, hrefresh, minutes, hminutes, days, hdays,
      absoluteDays, habsolute, enforce, henforce, port, hport, hc⟩
    cases hc
    exact ⟨hurl, rfl, rfl, hport, haccess, hrefresh, hminutes, hdays, habsolute, henforce⟩
  · intro h
    refine ⟨_, h.accessSecret, _, h.refreshSecret, _, h.ttlMinutes, _, h.refreshTtlDays, _,
      h.refreshAbsoluteTtlDays, _, h.enforceAbsoluteExpiry, _, h.port, ?_⟩
    have hdatabase : (lookup "DATABASE_URL").filter (fun url => !Text.blank url) =
        c.databaseUrl := Option.ext fun url => (hurl url).trans (h.databaseUrl url).symm
    rw [hdatabase, ← h.storeConfig, ← h.host]

/-! ## Lifetimes -/

section

variable {n count unit limit : Int}

/-- What is cut off at the ends of the range keeps its sign. -/
theorem clamp_pos_iff : 0 < Text.Range.int64.clamp n ↔ 0 < n := by
  simp only [Text.Range.clamp, Text.Range.int64]
  omega

/-- What is cut off at the ends of the range stays on its side of a limit within. -/
theorem clamp_le_iff (hlow : -9223372036854775808 ≤ limit) (hhigh : limit < 9223372036854775807) :
    Text.Range.int64.clamp n ≤ limit ↔ n ≤ limit := by
  simp only [Text.Range.clamp, Text.Range.int64]
  omega

theorem clamp_of_holds (h : Text.Range.int64.holds n = true) : Text.Range.int64.clamp n = n := by
  obtain ⟨hlow, hhigh⟩ := Text.Range.holds_iff.1 h
  rw [Text.Range.clamp, if_neg (Int.not_lt.2 hlow), if_neg (Int.not_lt.2 hhigh)]

variable (hunit : 0 < unit)
include hunit

/-- A span is positive if its count is, however large it is. -/
theorem span_pos_iff : 0 < (span count unit).nanoseconds ↔ 1 ≤ count := by
  rw [span, Span.ofSeconds, nanosPerSecond, mul_pos_iff_of_pos_right (by decide),
    clamp_pos_iff, mul_pos_iff_of_pos_right hunit]
  rfl

variable (hlimit : limit * unit = 3153600000)
include hlimit

theorem span_le_iff :
    (span count unit).nanoseconds ≤ longestLifetime.nanoseconds ↔ count ≤ limit := by
  have hlongest : longestLifetime.nanoseconds = limit * unit * nanosPerSecond := by
    rw [hlimit]
    rfl
  rw [hlongest, span, Span.ofSeconds, Int.mul_le_mul_right (by decide),
    clamp_le_iff (by omega) (by omega), Int.mul_le_mul_right hunit]

/-- The span of a number of units within the bounds is their product, which is not beyond
sixty-four bits. -/
theorem span_eq (hlow : 1 ≤ count) (hhigh : count ≤ limit) :
    span count unit = .ofSeconds (count * unit) := by
  have hpos : 0 < count * unit := (mul_pos_iff_of_pos_right hunit).2 hlow
  have hle : count * unit ≤ limit * unit := (Int.mul_le_mul_right hunit).2 hhigh
  rw [span, clamp_of_holds]
  rw [Text.Range.holds_iff]
  constructor
  · exact Int.le_trans (by decide) (Int.le_of_lt hpos)
  · rw [hlimit] at hle
    exact Int.le_trans hle (by decide)

/-- A span of a count of units is a lifetime from one of them up to the limit for the unit.
-/
theorem isLifetime_span_iff :
    isLifetime (span count unit) = true ↔ 1 ≤ count ∧ count ≤ limit := by
  rw [Engine.isLifetime_iff, span_pos_iff hunit, span_le_iff hunit hlimit]

end

/-! ## Requirements -/

/-- Something that is asked of settings, and the error if it is not so. -/
structure Requirement where
  met : Configuration → Prop
  error : SettingsError

/-- What is asked of settings, in order. -/
def requirements : List Requirement :=
  [⟨fun c => c.accessSecret ≠ "", .missingAccessSecret⟩,
    ⟨fun c => c.refreshSecret ≠ "", .missingRefreshSecret⟩,
    ⟨fun c => 1 ≤ c.ttlMinutes, .missingTokenLifetime⟩,
    ⟨fun c => c.ttlMinutes ≤ 52560000, .invalidTokenLifetime⟩,
    ⟨fun c => 1 ≤ c.refreshTtlDays ∧ c.refreshTtlDays ≤ 36500, .invalidRefreshTtl⟩,
    ⟨fun c => 1 ≤ c.refreshAbsoluteTtlDays ∧ c.refreshAbsoluteTtlDays ≤ 36500,
      .invalidRefreshAbsoluteTtl⟩]

/-- The settings do not meet the requirement, and this is its error. -/
def Requirement.Unmet (c : Configuration) (r : Requirement) (why : SettingsError) : Prop :=
  ¬r.met c ∧ r.error = why

/-- The service that the settings make: sixty seconds to a minute and 86400 to a day. -/
def service (c : Configuration) (schema : Schema) : Service where
  engine :=
    { accessSecret := c.accessSecret
      refreshSecret := c.refreshSecret
      tokenLifetime := .ofSeconds (c.ttlMinutes * 60)
      refreshTtl := .ofSeconds (c.refreshTtlDays * 86400)
      refreshAbsoluteTtl := .ofSeconds (c.refreshAbsoluteTtlDays * 86400)
      ceiling := if c.enforceAbsoluteExpiry then .enforced else .unenforced
      schema }
  users := .empty

/-- The checks of the settings, on the numbers themselves. -/
theorem ofSettings_settings (c : Configuration) (schema : Schema) :
    Service.ofSettings schema c.settings =
      if ¬c.accessSecret ≠ "" then .error .missingAccessSecret
      else if ¬c.refreshSecret ≠ "" then .error .missingRefreshSecret
      else if ¬1 ≤ c.ttlMinutes then .error .missingTokenLifetime
      else if ¬c.ttlMinutes ≤ 52560000 then .error .invalidTokenLifetime
      else if ¬(1 ≤ c.refreshTtlDays ∧ c.refreshTtlDays ≤ 36500) then .error .invalidRefreshTtl
      else if ¬(1 ≤ c.refreshAbsoluteTtlDays ∧ c.refreshAbsoluteTtlDays ≤ 36500) then
        .error .invalidRefreshAbsoluteTtl
      else .ok (c.service schema) := by
  have hminute : (0 : Int) < 60 := by decide
  have hday : 0 < secondsPerDay := by decide
  have hyears : (52560000 : Int) * 60 = 3153600000 := by decide
  have hdays : 36500 * secondsPerDay = 3153600000 := by decide
  have hlong : longestLifetime.nanoseconds < (span c.ttlMinutes 60).nanoseconds ↔
      ¬c.ttlMinutes ≤ 52560000 := by
    rw [← Int.not_le, span_le_iff hminute hyears]
  have hbad : ∀ count, (!isLifetime (span count secondsPerDay)) = true ↔
      ¬(1 ≤ count ∧ count ≤ 36500) := by
    intro count
    rw [Bool.not_eq_true', Bool.eq_false_iff, ne_eq, isLifetime_span_iff hday hdays]
  unfold Service.ofSettings Engine.ofSettings settings
  dsimp only
  -- one check after the other: where it fails both sides stop, and otherwise both go on
  by_cases haccess : c.accessSecret ≠ ""
  swap
  · rw [if_pos haccess, Option.filter_some_neg (by simpa using haccess)]
  rw [if_neg (not_not.2 haccess), Option.filter_some_pos (by simpa using haccess)]
  dsimp only
  by_cases hrefresh : c.refreshSecret ≠ ""
  swap
  · rw [if_pos hrefresh, Option.filter_some_neg (by simpa using hrefresh)]
  rw [if_neg (not_not.2 hrefresh), Option.filter_some_pos (by simpa using hrefresh)]
  dsimp only
  by_cases hpos : 1 ≤ c.ttlMinutes
  swap
  · rw [if_pos hpos, Option.filter_some_neg (by simpa [span_pos_iff hminute] using hpos)]
  rw [if_neg (not_not.2 hpos), Option.filter_some_pos (by simpa [span_pos_iff hminute] using hpos)]
  dsimp only
  by_cases hle : c.ttlMinutes ≤ 52560000
  swap
  · rw [if_pos hle, if_pos (hlong.2 hle)]
  rw [if_neg (not_not.2 hle), if_neg (mt hlong.1 (not_not.2 hle))]
  by_cases httl : 1 ≤ c.refreshTtlDays ∧ c.refreshTtlDays ≤ 36500
  swap
  · rw [if_pos httl, if_pos ((hbad _).2 httl)]
  rw [if_neg (not_not.2 httl), if_neg (mt (hbad _).1 (not_not.2 httl))]
  by_cases habsolute : 1 ≤ c.refreshAbsoluteTtlDays ∧ c.refreshAbsoluteTtlDays ≤ 36500
  swap
  · rw [if_pos habsolute, if_pos ((hbad _).2 habsolute)]
  rw [if_neg (not_not.2 habsolute), if_neg (mt (hbad _).1 (not_not.2 habsolute)),
    span_eq hminute hyears hpos hle, span_eq hday hdays httl.1 httl.2,
    span_eq hday hdays habsolute.1 habsolute.2]
  rfl

section

variable {c : Configuration} {schema : Schema} {why : SettingsError}

/-- The first requirement that is not met is reported. -/
theorem ofSettings_eq_error_iff : Service.ofSettings schema c.settings = .error why ↔
    FirstFault (Requirement.Unmet c) requirements why := by
  rw [ofSettings_settings]
  unfold requirements
  refine ite_eq_error_iff_firstFault (fun _ => Iff.rfl) ?_
  refine ite_eq_error_iff_firstFault (fun _ => Iff.rfl) ?_
  refine ite_eq_error_iff_firstFault (fun _ => Iff.rfl) ?_
  refine ite_eq_error_iff_firstFault (fun _ => Iff.rfl) ?_
  refine ite_eq_error_iff_firstFault (fun _ => Iff.rfl) ?_
  refine ite_eq_error_iff_firstFault (fun _ => Iff.rfl) ?_
  exact ⟨fun h => (nomatch h), fun h => absurd h not_firstFault_nil⟩

/-- Settings that meet all requirements make their service. -/
theorem ofSettings_eq_ok_iff {s : Service} : Service.ofSettings schema c.settings = .ok s ↔
    (∀ r ∈ requirements, r.met c) ∧ s = c.service schema := by
  have hmet : (∀ r ∈ requirements, r.met c) →
      Service.ofSettings schema c.settings = .ok (c.service schema) := by
    simp only [requirements, List.forall_mem_cons]
    rintro ⟨haccess, hrefresh, hpos, hle, httl, habsolute, -⟩
    rw [ofSettings_settings, if_neg (not_not.2 haccess), if_neg (not_not.2 hrefresh),
      if_neg (not_not.2 hpos), if_neg (not_not.2 hle), if_neg (not_not.2 httl),
      if_neg (not_not.2 habsolute)]
  constructor
  · intro h
    have hall : ∀ r ∈ requirements, r.met c := by
      intro r hr
      by_contra hnot
      have hunmet : ∃ r ∈ requirements, ∃ why, Requirement.Unmet c r why :=
        ⟨r, hr, r.error, hnot, rfl⟩
      obtain ⟨why, hfault⟩ := exists_firstFault_iff.2 hunmet
      rw [ofSettings_eq_error_iff.2 hfault] at h
      cases h
    rw [hmet hall] at h
    exact ⟨hall, (Except.ok.inj h).symm⟩
  · rintro ⟨hall, rfl⟩
    exact hmet hall

end

/-- The variables give no settings if and only if one is refused, and then the first that is
refused is reported. Otherwise the settings are what the variables say. Settings, with any
numbers whatever, make a service if and only if they meet all requirements, with lifetimes of
so many minutes and days and no others. Otherwise the first requirement that they do not meet is
reported. -/
theorem service_outcome (lookup : Variables) :
    ((∃ e, ofVariables lookup = .error e) ↔
      ∃ v ∈ readings, ∃ e, Reading.Refused lookup v e) ∧
    (∀ e, ofVariables lookup = .error e ↔ FirstFault (Reading.Refused lookup) readings e) ∧
    (∀ c, ofVariables lookup = .ok c ↔ Given lookup c) ∧
    ∀ c schema,
      (∀ s, Service.ofSettings schema (settings c) = .ok s ↔
        (∀ r ∈ requirements, r.met c) ∧ s = c.service schema) ∧
      ∀ why, Service.ofSettings schema (settings c) = .error why ↔
        FirstFault (Requirement.Unmet c) requirements why := by
  refine ⟨?_, fun e => ofVariables_eq_error_iff, fun c => ofVariables_eq_ok_iff, fun c schema =>
    ⟨fun s => ofSettings_eq_ok_iff, fun why => ofSettings_eq_error_iff⟩⟩
  simp only [ofVariables_eq_error_iff]
  exact exists_firstFault_iff

/-! ## A century -/

/-- Variables for lifetimes of up to a century. -/
def centuryVariables (minutes : String) : Variables := fun name =>
  [("JWT_SECRET", "lantern"), ("JWT_REFRESH_SECRET", "harbour"),
    ("TOKEN_EXPIRATION_TIME_MINUTES", minutes), ("REFRESH_ABSOLUTE_TTL_DAYS", "36500")].lookup name

/-- The settings that they give. -/
def century (minutes : Int) : Configuration where
  databaseUrl := none
  storeConfig := "configs/store.yml"
  host := "0.0.0.0"
  port := 8080
  accessSecret := "lantern"
  refreshSecret := "harbour"
  ttlMinutes := minutes
  refreshTtlDays := 3
  refreshAbsoluteTtlDays := 36500
  enforceAbsoluteExpiry := false

/-- The minutes of a century make a service, and sixty times the most minutes that can be read
are not taken for fewer. -/
theorem service_outcome_century :
    ofVariables (centuryVariables " 52560000 ") = .ok (century 52560000) ∧
      Service.ofSettings .members (settings (century 52560000)) =
        .ok ((century 52560000).service .members) ∧
      ofVariables (centuryVariables "9223372036854775807") =
        .ok (century 9223372036854775807) ∧
      Service.ofSettings .members (settings (century 9223372036854775807)) =
        .error .invalidTokenLifetime := by
  obtain ⟨-, -, -, hservice⟩ := service_outcome (centuryVariables " 52560000 ")
  refine ⟨by decide +kernel, ?_, by decide +kernel, ?_⟩
  · refine ((hservice (century 52560000) .members).1 _).2 ⟨?_, rfl⟩
    simp only [requirements, List.forall_mem_cons]
    exact ⟨by decide, by decide, by decide, by decide, by decide, by decide,
      fun _ hr => absurd hr List.not_mem_nil⟩
  · refine ((hservice (century 9223372036854775807) .members).2 _).2 ?_
    have hmet : ∀ r ∈ requirements.take 3, r.met (century 9223372036854775807) := by
      simp only [requirements, List.take_succ_cons, List.take_zero, List.forall_mem_cons]
      exact ⟨by decide, by decide, by decide, fun _ hr => absurd hr List.not_mem_nil⟩
    refine ⟨requirements.take 3, _, requirements.drop 4, rfl, fun r hr _ hunmet => ?_, ?_, rfl⟩
    · exact hunmet.1 (hmet r hr)
    · show ¬(9223372036854775807 : Int) ≤ 52560000
      decide

end Configuration

end BearerAuth
