import SearchDomain.Proofs.Text.Percent
import SearchDomain.Proofs.Text.Trimmed
import SearchDomain.Settings.Program
/-!
# Acceptance — which environments are accepted, and which fault is blamed

A program is told what its required variables and its timeout say (`Given`, `TellsTimeout`); a timeout is a decimal
number, with a plus sign and white space at will (`SpellsSeconds`). Settings ask for the required variables in order
and for the timeout last (`Asks`), and whatever does so blames the first of them that is not given, and the timeout
only when all of them are (`Asks.missing_iff`, `Asks.invalid_iff`). So both programs read their environment exactly
(`read_exactly`).
-/
namespace SearchDomain.Settings

open Text (AllSpace Flush)

variable {α : Type} {env : Environment} {name value : String} {fault : Fault} {n : Nat} {names : List String}
  {read : Except Fault α} {s : String} {cs : List Char}

/-- A required variable is given: it is a text, and not all of it is white space. -/
def Given (env : Environment) (name value : String) : Prop :=
  env name = .text value ∧ ∃ c ∈ value.toList, Text.isWhiteSpace c = false

/-- A text of a number of seconds. The number is positive and fits 64 bits. -/
inductive SpellsSeconds (n : Nat) : List Char → Prop
  | spelled {w plus digits w' : List Char} (before : AllSpace w) (sign : plus = [] ∨ plus = ['+']) (some : digits ≠ [])
      (decimal : ∀ d ∈ digits, d.isDigit = true) (value : Nat.ofDigitChars 10 digits 0 = n) (positive : 1 ≤ n)
      (word : n ≤ 0xFFFFFFFFFFFFFFFF) (after : AllSpace w') : SpellsSeconds n (w ++ (plus ++ digits ++ w'))

/-- What the environment says of the timeout; 30 seconds if it has no text for it. -/
inductive TellsTimeout (env : Environment) : Nat → Prop
  | unset (h : env timeoutName = .unset) : TellsTimeout env 30
  | undecodable (h : env timeoutName = .undecodable) : TellsTimeout env 30
  | text {value : String} {n : Nat} (h : env timeoutName = .text value) (spelled : SpellsSeconds n value.toList) :
      TellsTimeout env n

/-! ## Variables -/

theorem text?_eq_some_iff : env.text? name = some value ↔ env name = .text value := by
  unfold Environment.text? Setting.text?
  cases env name <;> simp

theorem hasContent_iff : hasContent value = true ↔ ∃ c ∈ value.toList, Text.isWhiteSpace c = false := by
  unfold hasContent
  simp only [List.any_eq_true, Bool.not_eq_true']

theorem required_of_given (given : Given env name value) : required env name = .ok value := by
  unfold required
  rw [text?_eq_some_iff.2 given.1]
  exact if_pos (hasContent_iff.2 given.2)

theorem required_of_not_given (missing : ∀ value, ¬ Given env name value) :
    required env name = .error (.missing name) := by
  unfold required
  cases h : env.text? name with
  | none => rfl
  | some value => exact if_neg fun content => missing value ⟨text?_eq_some_iff.1 h, hasContent_iff.1 content⟩

/-! ## The timeout -/

theorem digitsValue?_eq_some_iff :
    digitsValue? cs = some n ↔ cs ≠ [] ∧ (∀ d ∈ cs, d.isDigit = true) ∧ Nat.ofDigitChars 10 cs 0 = n := by
  have value : cs.foldl (fun n c => n * 10 + (c.toNat - 48)) 0 = Nat.ofDigitChars 10 cs 0 := by
    unfold Nat.ofDigitChars
    congr
    funext n c
    rw [Nat.mul_comm]
    rfl
  unfold digitsValue?
  rw [value, ← List.all_eq_true]
  split
  · rename_i h
    exact ⟨fun he => ⟨h.1, h.2, Option.some.inj he⟩, fun he => congrArg some he.2.2⟩
  · rename_i h
    exact ⟨(fun he => nomatch he), fun he => absurd ⟨he.1, he.2.1⟩ h⟩

theorem isWhiteSpace_of_isDigit {d : Char} (h : d.isDigit = true) : Text.isWhiteSpace d = false := by
  obtain ⟨low, high⟩ := Text.Percent.bounds_of_isDigit h
  unfold Text.isWhiteSpace
  simp only [Bool.or_eq_false_iff, Bool.and_eq_false_iff, decide_eq_false_iff_not, beq_eq_false_iff_ne]
  omega

/-- Neither a sign nor a digit is white space. -/
theorem flush_number {plus digits : List Char} (sign : plus = [] ∨ plus = ['+'])
    (decimal : ∀ d ∈ digits, d.isDigit = true) : Flush (plus ++ digits) := by
  have all : ∀ d ∈ plus ++ digits, Text.isWhiteSpace d = false := by
    intro d hd
    rcases List.mem_append.1 hd with hd | hd
    · rcases sign with rfl | rfl
      · cases hd
      · rw [List.mem_singleton.1 hd]
        decide
    · exact isWhiteSpace_of_isDigit (decimal d hd)
  exact ⟨fun d hd => all d (List.mem_of_mem_head? hd), fun d hd => all d (List.mem_of_getLast? hd)⟩

theorem seconds?_eq_some_iff : seconds? s = some n ↔ SpellsSeconds n s.toList := by
  constructor
  · intro h
    obtain ⟨w, w', before, after, split⟩ := Text.exists_trim s.toList
    unfold seconds? at h
    obtain ⟨m, digits, h⟩ := Option.bind_eq_some_iff.1 h
    obtain ⟨⟨positive, word⟩, rfl⟩ : (0 < m ∧ m < 0x10000000000000000) ∧ m = n := by
      simpa using h
    obtain ⟨some, decimal, value⟩ := digitsValue?_eq_some_iff.1 digits
    rw [split]
    split at some
    · rename_i plus
      obtain ⟨digits, hdigits⟩ : ∃ digits, Text.trim s.toList = '+' :: digits :=
        ⟨_, (List.cons_head?_tail plus).symm⟩
      rw [hdigits] at some decimal value ⊢
      exact .spelled before (.inr rfl) some (by simpa using decimal) (by simpa using value) positive (by omega) after
    · rename_i plain
      rw [if_neg plain] at decimal value
      have unsigned : SpellsSeconds m (w ++ ([] ++ Text.trim s.toList ++ w')) :=
        .spelled before (.inl rfl) some decimal value positive (by omega) after
      exact unsigned
  · intro h
    generalize hs : s.toList = cs at h
    cases h with
    | @spelled w plus digits w' before sign some decimal value positive word after =>
      have digits? := digitsValue?_eq_some_iff.2 ⟨some, decimal, value⟩
      unfold seconds?
      rw [hs, Text.trim_between before after (flush_number sign decimal)]
      refine Option.bind_eq_some_iff.2 ⟨n, ?_, if_pos ⟨positive, by omega⟩⟩
      rcases sign with rfl | rfl
      · obtain ⟨d, ds, rfl⟩ := List.exists_cons_of_ne_nil some
        have plain : ([] ++ d :: ds).head? ≠ Option.some '+' := fun he => by
          cases he
          exact absurd (decimal '+' List.mem_cons_self) (by decide)
        rw [if_neg plain]
        exact digits?
      · exact digits?

example : seconds? "\u3000+0018446744073709551615\n" = some 0xFFFFFFFFFFFFFFFF := by decide +kernel

theorem requestTimeout_eq_ok_iff : requestTimeout env = .ok n ↔ TellsTimeout env n := by
  unfold requestTimeout
  cases h : env timeoutName with
  | unset =>
    have none : env.text? timeoutName = Option.none := by rw [Environment.text?, h]; rfl
    rw [none]
    exact ⟨fun ok => Except.ok.inj ok ▸ .unset h, fun told => by cases told <;> simp_all [defaultTimeout]⟩
  | undecodable =>
    have none : env.text? timeoutName = Option.none := by rw [Environment.text?, h]; rfl
    rw [none]
    exact ⟨fun ok => Except.ok.inj ok ▸ .undecodable h, fun told => by cases told <;> simp_all [defaultTimeout]⟩
  | text value =>
    rw [text?_eq_some_iff.2 h]
    have told : TellsTimeout env n ↔ SpellsSeconds n value.toList := by
      refine ⟨fun told => ?_, fun spelled => .text h spelled⟩
      cases told with
      | unset h' | undecodable h' => cases h.symm.trans h'
      | text h' spelled =>
        cases h.symm.trans h'
        exact spelled
    rw [told, ← seconds?_eq_some_iff]
    dsimp only
    cases seconds? value with
    | none => exact ⟨(fun he => nomatch he), fun he => nomatch he⟩
    | some m => exact ⟨fun he => congrArg some (Except.ok.inj he), fun he => congrArg Except.ok (Option.some.inj he)⟩

theorem requestTimeout_eq_error_iff : requestTimeout env = .error fault ↔
    ∃ value, env timeoutName = .text value ∧ (∀ n, ¬ SpellsSeconds n value.toList) ∧
      fault = .invalid timeoutName value := by
  unfold requestTimeout
  cases h : env.text? timeoutName with
  | none =>
    refine ⟨(fun he => nomatch he), fun ⟨value, told, _⟩ => ?_⟩
    cases h.symm.trans (text?_eq_some_iff.2 told)
  | some value =>
    dsimp only
    cases seconds : seconds? value with
    | some n =>
      refine ⟨(fun he => nomatch he), fun ⟨other, told, unspelled, _⟩ => ?_⟩
      cases h.symm.trans (text?_eq_some_iff.2 told)
      exact absurd (seconds?_eq_some_iff.1 seconds) (unspelled n)
    | none =>
      have unspelled : ∀ n, ¬ SpellsSeconds n value.toList := fun n spelled => by
        cases seconds.symm.trans (seconds?_eq_some_iff.2 spelled)
      constructor
      · rintro ⟨⟩
        exact ⟨value, text?_eq_some_iff.1 h, unspelled, rfl⟩
      · rintro ⟨other, told, -, rfl⟩
        cases h.symm.trans (text?_eq_some_iff.2 told)
        rfl

/-! ## One after the other -/

/-- Required variables, and the timeout after them, are asked for in order. -/
inductive Asks (env : Environment) : List String → Except Fault α → Prop
  | timeout (f : Nat → α) : Asks env [] (requestTimeout env >>= fun n => .ok (f n))
  | required {name : String} {names : List String} {f : String → Except Fault α}
      (rest : ∀ value, Asks env names (f value)) :
      Asks env (name :: names) (required env name >>= f)

def AllGiven (env : Environment) (names : List String) : Prop := ∀ name ∈ names, ∃ value, Given env name value

theorem allGiven_cons_iff : AllGiven env (name :: names) ↔ (∃ value, Given env name value) ∧ AllGiven env names :=
  List.forall_mem_cons

/-- Settings are had if and only if all that is asked for is there. -/
theorem Asks.succeeds_iff (asks : Asks env names read) :
    (∃ x, read = .ok x) ↔ AllGiven env names ∧ ∃ n, TellsTimeout env n := by
  induction asks with
  | timeout f =>
    simp only [← requestTimeout_eq_ok_iff]
    cases requestTimeout env with
    | error fault => exact ⟨(fun ⟨_, h⟩ => nomatch h), fun ⟨_, _, h⟩ => nomatch h⟩
    | ok n => exact ⟨fun _ => ⟨fun _ h => (nomatch h), n, rfl⟩, fun _ => ⟨f n, rfl⟩⟩
  | @required name names f rest ih =>
    rw [allGiven_cons_iff]
    by_cases given : ∃ value, Given env name value
    · obtain ⟨value, h⟩ := given
      rw [required_of_given h]
      exact (ih value).trans ⟨fun ⟨all, told⟩ => ⟨⟨⟨value, h⟩, all⟩, told⟩, fun ⟨⟨_, all⟩, told⟩ => ⟨all, told⟩⟩
    · rw [required_of_not_given fun value h => given ⟨value, h⟩]
      exact ⟨(fun ⟨_, h⟩ => nomatch h), fun ⟨⟨h, _⟩, _⟩ => absurd h given⟩

/-- **The first required variable that is not given is blamed.** -/
theorem Asks.missing_iff (asks : Asks env names read) : read = .error (.missing name) ↔
    ∃ before after, names = before ++ name :: after ∧ AllGiven env before ∧ ∀ value, ¬ Given env name value := by
  induction asks with
  | timeout f =>
    refine ⟨fun h => ?_, fun ⟨before, after, h, _⟩ => absurd h.symm (by simp)⟩
    cases timeout : requestTimeout env with
    | ok n =>
      rw [timeout] at h
      cases h
    | error fault =>
      rw [timeout] at h
      cases h
      obtain ⟨value, -, -, he⟩ := requestTimeout_eq_error_iff.1 timeout
      cases he
  | @required asked names f rest ih =>
    by_cases given : ∃ value, Given env asked value
    · obtain ⟨value, h⟩ := given
      rw [required_of_given h]
      refine (ih value).trans ⟨?_, ?_⟩
      · rintro ⟨before, after, rfl, all, missing⟩
        exact ⟨asked :: before, after, rfl, allGiven_cons_iff.2 ⟨⟨value, h⟩, all⟩, missing⟩
      · rintro ⟨before, after, split, all, missing⟩
        cases before with
        | nil =>
          cases split
          exact absurd h (missing value)
        | cons first before =>
          cases split
          exact ⟨before, after, rfl, (allGiven_cons_iff.1 all).2, missing⟩
    · have missing : ∀ value, ¬ Given env asked value := fun value h => given ⟨value, h⟩
      rw [required_of_not_given missing]
      constructor
      · rintro ⟨⟩
        exact ⟨[], names, rfl, fun _ h => (nomatch h), missing⟩
      · rintro ⟨before, after, split, all, -⟩
        cases before with
        | nil =>
          cases split
          rfl
        | cons first before =>
          cases split
          exact absurd (allGiven_cons_iff.1 all).1 given

/-- **The timeout is blamed only when all required variables are given.** -/
theorem Asks.invalid_iff (asks : Asks env names read) : read = .error (.invalid name value) ↔
    AllGiven env names ∧ name = timeoutName ∧ env timeoutName = .text value ∧ ∀ n, ¬ SpellsSeconds n value.toList := by
  induction asks with
  | timeout f =>
    have blamed : (requestTimeout env >>= fun n => .ok (f n)) = .error (.invalid name value) ↔
        requestTimeout env = .error (.invalid name value) := by
      cases requestTimeout env with
      | ok n => exact ⟨(fun h => nomatch h), fun h => nomatch h⟩
      | error fault =>
        exact ⟨fun h => congrArg Except.error (Except.error.inj h), fun h => congrArg Except.error (Except.error.inj h)⟩
    rw [blamed, requestTimeout_eq_error_iff]
    constructor
    · rintro ⟨told, h, unspelled, he⟩
      cases he
      exact ⟨fun _ h => (nomatch h), rfl, h, unspelled⟩
    · rintro ⟨-, rfl, h, unspelled⟩
      exact ⟨value, h, unspelled, rfl⟩
  | @required asked names f rest ih =>
    rw [allGiven_cons_iff]
    by_cases given : ∃ value, Given env asked value
    · obtain ⟨value, h⟩ := given
      rw [required_of_given h]
      exact (ih value).trans ⟨fun ⟨all, told⟩ => ⟨⟨⟨value, h⟩, all⟩, told⟩, fun ⟨⟨_, all⟩, told⟩ => ⟨all, told⟩⟩
    · rw [required_of_not_given fun value h => given ⟨value, h⟩]
      exact ⟨(fun h => nomatch h), fun ⟨⟨h, _⟩, _⟩ => absurd h given⟩

/-! ## The programs -/

/-- Settings are read exactly: they are had from the environments that tell them, and from no others, and the fault is
that of the first required variable that is not given, or else of the timeout. -/
structure ReadExactly (names : List String) (tells : Environment → α → Prop) (read : Environment → Except Fault α) :
    Prop where
  told : ∀ env x, read env = .ok x ↔ tells env x
  succeeds : ∀ env, (∃ x, read env = .ok x) ↔
    (∀ name ∈ names, ∃ value, Given env name value) ∧ ∃ n, TellsTimeout env n
  missing : ∀ env name, read env = .error (.missing name) ↔ ∃ before after, names = before ++ name :: after ∧
    (∀ given ∈ before, ∃ value, Given env given value) ∧ ∀ value, ¬ Given env name value
  invalid : ∀ env name value, read env = .error (.invalid name value) ↔
    (∀ given ∈ names, ∃ value, Given env given value) ∧ name = timeoutName ∧ env timeoutName = .text value ∧
      ∀ n, ¬ SpellsSeconds n value.toList

theorem readExactly_of_asks {tells : Environment → α → Prop} {read : Environment → Except Fault α}
    (asks : ∀ env, Asks env names (read env)) (told : ∀ env x, read env = .ok x ↔ tells env x) :
    ReadExactly names tells read where
  told
  succeeds env := (asks env).succeeds_iff
  missing env _ := (asks env).missing_iff
  invalid env _ _ := (asks env).invalid_iff

theorem required_bind_eq_ok_iff {f : String → Except Fault α} {x : α} :
    (required env name >>= f) = .ok x ↔ ∃ value, Given env name value ∧ f value = .ok x := by
  by_cases given : ∃ value, Given env name value
  · obtain ⟨value, given⟩ := given
    rw [required_of_given given]
    refine ⟨fun ok => ⟨value, given, ok⟩, fun ⟨other, given', ok⟩ => ?_⟩
    cases given.1.symm.trans given'.1
    exact ok
  · rw [required_of_not_given fun value h => given ⟨value, h⟩]
    exact ⟨(fun h => nomatch h), fun ⟨value, h, _⟩ => absurd ⟨value, h⟩ given⟩

theorem requestTimeout_bind_eq_ok_iff {f : Nat → Except Fault α} {x : α} :
    (requestTimeout env >>= f) = .ok x ↔ ∃ n, TellsTimeout env n ∧ f n = .ok x := by
  simp only [← requestTimeout_eq_ok_iff]
  cases requestTimeout env with
  | error fault => exact ⟨(fun h => nomatch h), fun ⟨_, h, _⟩ => nomatch h⟩
  | ok n =>
    refine ⟨fun ok => ⟨n, rfl, ok⟩, fun ⟨m, h, ok⟩ => ?_⟩
    cases h
    exact ok

namespace BootstrapSettings

/-- What the environment says of a domain and its secrets. -/
structure Told (env : Environment) (s : BootstrapSettings) : Prop where
  endpoint : Given env "DOMAIN_ENDPOINT" s.endpoint
  domainName : Given env "DOMAIN_NAME" s.parameters.domainName
  region : Given env "AWS_REGION" s.region
  pipelineRoleArn : Given env "PIPELINE_ROLE_ARN" s.parameters.pipelineRoleArn
  adminSecret : Given env "ADMIN_SECRET_ARN" s.parameters.adminSecret
  userSecret : Given env "USER_SECRET_ARN" s.parameters.userSecret
  timeout : TellsTimeout env s.timeout

theorem ofEnvironment_eq_ok_iff {s : BootstrapSettings} : ofEnvironment env = .ok s ↔ Told env s := by
  unfold ofEnvironment
  simp only [required_bind_eq_ok_iff, requestTimeout_bind_eq_ok_iff]
  constructor
  · rintro ⟨_, endpoint, _, domainName, _, region, _, arn, _, admin, _, user, _, timeout, ⟨⟩⟩
    exact ⟨endpoint, domainName, region, arn, admin, user, timeout⟩
  · rintro ⟨endpoint, domainName, region, arn, admin, user, timeout⟩
    exact ⟨_, endpoint, _, domainName, _, region, _, arn, _, admin, _, user, _, timeout, rfl⟩

end BootstrapSettings

namespace RotationSettings

/-- What the environment says of a domain and its passwords. The two optional variables have no text where they are not
UTF-8, and an empty endpoint is none. -/
structure Told (env : Environment) (s : RotationSettings) : Prop where
  endpoint : Given env "DOMAIN_ENDPOINT" s.endpoint
  domainName : Given env "DOMAIN_NAME" s.domainName
  region : Given env "AWS_REGION" s.region
  exclude : s.exclude = match env "EXCLUDE_CHARACTERS" with
    | .text value => value
    | .unset | .undecodable => "/@\"'\\"
  secretsEndpoint : s.secretsEndpoint = match env "SECRETS_MANAGER_ENDPOINT" with
    | .text value => if value = "" then none else some value
    | .unset | .undecodable => none
  timeout : TellsTimeout env s.timeout

theorem exclude_eq (env : Environment) : (env.text? "EXCLUDE_CHARACTERS").getD defaultExclude =
    match env "EXCLUDE_CHARACTERS" with
    | .text value => value
    | .unset | .undecodable => "/@\"'\\" := by
  unfold Environment.text? Setting.text?
  cases env "EXCLUDE_CHARACTERS" <;> rfl

theorem secretsEndpoint_eq (env : Environment) : (env.text? "SECRETS_MANAGER_ENDPOINT").filter (· ≠ "") =
    match env "SECRETS_MANAGER_ENDPOINT" with
    | .text value => if value = "" then none else some value
    | .unset | .undecodable => none := by
  unfold Environment.text? Setting.text?
  cases env "SECRETS_MANAGER_ENDPOINT" with
  | unset => rfl
  | undecodable => rfl
  | text value => by_cases h : value = "" <;> simp [h]

theorem ofEnvironment_eq_ok_iff {s : RotationSettings} : ofEnvironment env = .ok s ↔ Told env s := by
  unfold ofEnvironment
  simp only [required_bind_eq_ok_iff, requestTimeout_bind_eq_ok_iff, exclude_eq, secretsEndpoint_eq]
  constructor
  · rintro ⟨_, endpoint, _, domainName, _, region, _, timeout, ⟨⟩⟩
    exact ⟨endpoint, domainName, region, rfl, rfl, timeout⟩
  · obtain ⟨endpoint, domainName, region, exclude, secretsEndpoint, timeout⟩ := s
    rintro ⟨hendpoint, hdomainName, hregion, rfl, rfl, htimeout⟩
    exact ⟨_, hendpoint, _, hdomainName, _, hregion, _, htimeout, rfl⟩

end RotationSettings

/-- **Both programs read their environment exactly**, where there is no file. -/
theorem read_exactly :
    ReadExactly ["DOMAIN_ENDPOINT", "DOMAIN_NAME", "AWS_REGION", "PIPELINE_ROLE_ARN", "ADMIN_SECRET_ARN",
      "USER_SECRET_ARN"]
      BootstrapSettings.Told (fun env => BootstrapSettings.ofEnvironment (withFile none env)) ∧
    ReadExactly ["DOMAIN_ENDPOINT", "DOMAIN_NAME", "AWS_REGION"]
      RotationSettings.Told (fun env => RotationSettings.ofEnvironment (withFile none env)) := by
  refine ⟨readExactly_of_asks (fun env => ?_) fun env s => BootstrapSettings.ofEnvironment_eq_ok_iff,
    readExactly_of_asks (fun env => ?_) fun env s => RotationSettings.ofEnvironment_eq_ok_iff⟩
  · exact .required fun _ => .required fun _ => .required fun _ => .required fun _ => .required fun _ =>
      .required fun _ => .timeout _
  · exact .required fun _ => .required fun _ => .required fun _ => .timeout _

end SearchDomain.Settings
