import SearchDomain.Settings.Program
/-!
# EnvFile — a file fills gaps, all at once

A file is applied line by line, and every line reads what the lines before it have set. What comes out is told without
these steps (`withFile_eq_filled`): the lines before the first bad one make assignments, in which a dollar sign stands
for what the environment says or else for the first assignment before (`assignments`), and a gap of the environment
takes the first assignment of its name (`filled`). Which lines are bad, and what name a line assigns, does not depend
on the variables (`alike_readLine`).
-/
namespace SearchDomain.Settings.EnvFile

variable {env : Environment} {made : List (String × String)} {name other value : String} {line : List Char}
  {before after rest : List (List Char)}

/-! ## What a line is, whatever the variables -/

/-- Two readings of a line that differ in the value that is assigned, if at all. -/
inductive Alike : Line → Line → Prop
  | blank : Alike .blank .blank
  | assignment (name value value' : String) : Alike (.assignment name value) (.assignment name value')
  | bad : Alike .bad .bad

theorem isSome_push (c : Char) (rest : Option (List Char)) : (push c rest).isSome = rest.isSome := Option.isSome_map

theorem isSome_pushAll (s : String) (rest : Option (List Char)) : (pushAll s rest).isSome = rest.isSome :=
  Option.isSome_map

/-- A value can be read or not, whatever its variables hold: they are put in as they are. -/
theorem isSome_readValue (lookup lookup' : String → String) (double : Bool) (phase : Phase) (cs : List Char) :
    (readValue lookup double phase cs).isSome = (readValue lookup' double phase cs).isSome := by
  induction cs generalizing double phase with
  | nil =>
    cases phase with
    | plain => cases double <;> rfl
    | escaped => cases double <;> rfl
    | single => rfl
    | name braced name => cases braced <;> cases double <;> rfl
    | ended => rfl
  | cons c cs ih =>
    cases phase with
    | plain => simp only [readValue, apply_ite Option.isSome, isSome_push, ih]
    | escaped =>
      simp only [readValue]
      split
      · simp only [isSome_push, ih]
      · rfl
    | single => simp only [readValue, apply_ite Option.isSome, isSome_push, ih]
    | name braced name => simp only [readValue, apply_ite Option.isSome, isSome_push, isSome_pushAll, ih]
    | ended => simp only [readValue, apply_ite Option.isSome, ih]

/-- The value of an assignment, from what stands behind its equal sign and the blanks there. -/
def valueOf (lookup : String → String) : List Char → Option (List Char)
  | [] => some []
  | '#' :: _ => some []
  | rest => readValue lookup false .plain rest

theorem isSome_valueOf (lookup lookup' : String → String) (cs : List Char) :
    (valueOf lookup cs).isSome = (valueOf lookup' cs).isSome := by
  fun_cases valueOf lookup cs
  · rfl
  · rfl
  · rename_i present plain
    rw [valueOf.eq_3 _ _ present plain]
    exact isSome_readValue lookup lookup' false .plain cs

/-- What becomes of a key and the value that is read for it. -/
def assigning (key : List Char) : Option (List Char) → Line
  | some value => .assignment (String.ofList key) (String.ofList value)
  | none => .bad

theorem alike_assigning {v v' : Option (List Char)} (key : List Char) (h : v.isSome = v'.isSome) :
    Alike (assigning key v) (assigning key v') := by
  cases v <;> cases v' <;> cases h
  · exact .bad
  · exact .assignment _ _ _

/-- **The variables make a difference to the value of a line alone.** -/
theorem alike_readLine (lookup lookup' : String → String) (line : List Char) :
    Alike (readLine lookup line) (readLine lookup' line) := by
  unfold readLine
  split
  · exact .blank
  · exact .blank
  · split
    · exact .bad
    · rename_i key rest _
      exact alike_assigning key (isSome_valueOf lookup lookup' (Text.trimStart rest))

/-- A line ends the file. -/
def IsBad (line : List Char) : Prop := readLine (fun _ => "") line = .bad

/-- A line assigns the name a value. -/
def Assigns (line : List Char) (name : String) : Prop := ∃ value, readLine (fun _ => "") line = .assignment name value

instance (line : List Char) : Decidable (IsBad line) := inferInstanceAs (Decidable (readLine _ line = .bad))

theorem isBad_iff (lookup : String → String) : IsBad line ↔ readLine lookup line = .bad := by
  unfold IsBad
  have alike := alike_readLine (fun _ => "") lookup line
  generalize readLine (fun _ => "") line = plain at alike
  generalize readLine lookup line = read at alike
  cases alike <;> simp

theorem Assigns.readLine (h : Assigns line name) (lookup : String → String) :
    ∃ value, readLine lookup line = .assignment name value := by
  obtain ⟨value, h⟩ := h
  have alike := alike_readLine (fun _ => "") lookup line
  rw [h] at alike
  generalize EnvFile.readLine lookup line = read at alike
  cases alike
  exact ⟨_, rfl⟩

/-! ## All at once -/

/-- What a name stands for after some assignments: what the environment says, or the first of them, or nothing. -/
def standsFor (env : Environment) (made : List (String × String)) (name : String) : String :=
  ((env.text? name).or (made.lookup name)).getD ""

/-- The assignment of a line, if it is one. -/
def assigned (lookup : String → String) (line : List Char) : List (String × String) :=
  match readLine lookup line with
  | .assignment name value => [(name, value)]
  | _ => []

/-- The assignments that lines make after others. -/
def assignmentsAfter (env : Environment) : (made : List (String × String)) → List (List Char) → List (String × String)
  | made, [] => made
  | made, line :: rest => assignmentsAfter env (made ++ assigned (standsFor env made) line) rest

/-- The assignments that lines make, in order. -/
def assignments (env : Environment) (good : List (List Char)) : List (String × String) := assignmentsAfter env [] good

/-- The lines of a file before the first bad one. -/
def goodLines (source : String) : List (List Char) := (lines source.toList).takeWhile (¬ IsBad ·)

/-- A text, or else the value that is offered for a gap, if there is one. -/
def orValue : Setting → Option String → Setting
  | .text value, _ => .text value
  | _, some value => .text value
  | gap, none => gap

/-- The environment in which every variable that is no text has the first of its assignments, if there is one. -/
def filled (env : Environment) (made : List (String × String)) : Environment := fun name =>
  orValue (env name) (made.lookup name)

theorem orValue_none (setting : Setting) : orValue setting none = setting := by cases setting <;> rfl

theorem orValue_orValue (setting : Setting) (value? value?' : Option String) :
    orValue (orValue setting value?) value?' = orValue setting (value?.or value?') := by
  cases setting <;> cases value? <;> rfl

theorem text?_orValue (setting : Setting) (value? : Option String) :
    (orValue setting value?).text? = setting.text?.or value? := by
  cases setting <;> cases value? <;> rfl

theorem fill_apply (env : Environment) (name value other : String) :
    env.fill name value other = orValue (env other) (if other = name then some value else none) := by
  unfold Environment.fill Environment.set Environment.text?
  by_cases same : other = name
  · subst same
    cases h : env other <;> simp [Setting.text?, orValue, h]
  · rw [if_neg same, orValue_none]
    split
    · rfl
    · exact if_neg same

theorem filled_nil (env : Environment) : filled env [] = env := funext fun name => orValue_none (env name)

theorem lookup_filled (env : Environment) (made : List (String × String)) :
    lookup (filled env made) = standsFor env made :=
  funext fun name => congrArg (·.getD "") (text?_orValue (env name) (made.lookup name))

/-- A gap that is filled already keeps its first assignment. -/
theorem fill_filled (env : Environment) (made : List (String × String)) (name value : String) :
    (filled env made).fill name value = filled env (made ++ [(name, value)]) := by
  funext other
  unfold filled
  rw [fill_apply, orValue_orValue, List.lookup_append, List.lookup_cons, List.lookup_nil]
  by_cases same : other = name
  · rw [if_pos same, beq_iff_eq.2 same]
  · rw [if_neg same, beq_eq_false_iff_ne.2 same]

/-- **Lines fill the gaps that are left** as they would fill them all at once. -/
theorem applyLines_filled (env : Environment) (made : List (String × String)) (all : List (List Char)) :
    applyLines all (filled env made) = filled env (assignmentsAfter env made (all.takeWhile (¬ IsBad ·))) := by
  induction all generalizing made with
  | nil => rfl
  | cons line rest ih =>
    rw [applyLines, lookup_filled]
    by_cases bad : IsBad line
    · rw [(isBad_iff _).1 bad, List.takeWhile_cons_of_neg (by simpa using bad)]
      rfl
    · rw [List.takeWhile_cons_of_pos (by simpa using bad), assignmentsAfter, assigned]
      cases read : readLine (standsFor env made) line with
      | blank =>
        dsimp only
        rw [List.append_nil]
        exact ih made
      | assignment name value =>
        dsimp only
        rw [fill_filled]
        exact ih _
      | bad => exact absurd ((isBad_iff _).2 read) bad

theorem withFile_eq_filled (source : String) (env : Environment) :
    withFile (some source) env = filled env (assignments env (goodLines source)) := by
  have h := applyLines_filled env [] (lines source.toList)
  rwa [filled_nil] at h

/-! ## What makes no difference -/

/-- What follows a bad line is not applied. -/
theorem applyLines_of_bad (bad : IsBad line) (before rest : List (List Char)) (env : Environment) :
    applyLines (before ++ line :: rest) env = applyLines before env := by
  induction before generalizing env with
  | nil =>
    rw [List.nil_append, applyLines.eq_def]
    simp only [(isBad_iff _).1 bad]
    rfl
  | cons first before ih =>
    rw [List.cons_append, applyLines, applyLines]
    split
    · exact ih env
    · exact ih _
    · rfl

theorem fill_of_isSome (h : (env.text? name).isSome = true) (value : String) : env.fill name value = env := if_pos h

theorem isSome_text?_fill (h : (env.text? name).isSome = true ∨ other = name) (value : String) :
    ((env.fill other value).text? name).isSome = true := by
  rw [Environment.text?, fill_apply, text?_orValue, Option.isSome_or]
  rcases h with h | rfl
  · rw [show (env name).text?.isSome = true from h]
    rfl
  · rw [if_pos rfl]
    exact Bool.or_true _

/-- Where a name has been assigned or was a text from the start, a further assignment of it can be left out. -/
theorem applyLines_again (again : Assigns line name) (before after : List (List Char)) (env : Environment)
    (h : (env.text? name).isSome = true ∨ ∃ earlier ∈ before, Assigns earlier name) :
    applyLines (before ++ line :: after) env = applyLines (before ++ after) env := by
  induction before generalizing env with
  | nil =>
    have set : (env.text? name).isSome = true := h.resolve_right fun ⟨_, h, _⟩ => nomatch h
    obtain ⟨value, read⟩ := again.readLine (lookup env)
    rw [List.nil_append, List.nil_append, applyLines.eq_def]
    simp only [read]
    rw [fill_of_isSome set]
  | cons first before ih =>
    rw [List.cons_append, List.cons_append, applyLines, applyLines]
    cases read : readLine (lookup env) first with
    | bad => rfl
    | blank =>
      refine ih env (h.imp_right ?_)
      rintro ⟨earlier, hm, assigns⟩
      rcases List.mem_cons.1 hm with rfl | hm
      · obtain ⟨value, read'⟩ := assigns.readLine (lookup env)
        cases read.symm.trans read'
      · exact ⟨earlier, hm, assigns⟩
    | assignment other value =>
      refine ih _ ?_
      rcases h with set | ⟨earlier, hm, assigns⟩
      · exact .inl (isSome_text?_fill (.inl set) value)
      rcases List.mem_cons.1 hm with rfl | hm
      · obtain ⟨value', read'⟩ := assigns.readLine (lookup env)
        cases read.symm.trans read'
        exact .inl (isSome_text?_fill (.inr rfl) value)
      · exact .inr ⟨earlier, hm, assigns⟩

/-- **A file only fills gaps.** Both programs read the environment with a file as they read the one in which each
variable that is no text has its first assignment before the first bad line. So a variable that is a text stays as it
is; an assignment of a name that was assigned before can be left out; and what begins with a bad line can be put in the
place of whatever else begins with one. -/
theorem fills_gaps :
    (∀ (source : String) (env : Environment),
      let whole := filled env (assignments env (goodLines source))
      withFile (some source) env = whole ∧
      BootstrapSettings.ofEnvironment (withFile (some source) env) =
        BootstrapSettings.ofEnvironment (withFile none whole) ∧
      RotationSettings.ofEnvironment (withFile (some source) env) =
        RotationSettings.ofEnvironment (withFile none whole)) ∧
    (∀ (source : String) (env : Environment) (name value : String), env name = .text value →
      withFile (some source) env name = .text value) ∧
    (∀ (source source' : String) (before after : List (List Char)) (line : List Char) (name : String),
      lines source.toList = before ++ line :: after → lines source'.toList = before ++ after →
      Assigns line name → (∃ earlier ∈ before, Assigns earlier name) →
      ∀ env, withFile (some source) env = withFile (some source') env) ∧
    (∀ (source source' : String) (before rest rest' : List (List Char)) (bad bad' : List Char),
      lines source.toList = before ++ bad :: rest → lines source'.toList = before ++ bad' :: rest' →
      IsBad bad → IsBad bad' →
      ∀ env, withFile (some source) env = withFile (some source') env) := by
  refine ⟨fun source env => ?_, fun source env name value h => ?_, ?_, ?_⟩
  · have whole := withFile_eq_filled source env
    exact ⟨whole, congrArg _ whole, congrArg _ whole⟩
  · rw [withFile_eq_filled, filled, h]
    rfl
  · intro source source' before after line name split split' again earlier env
    show applyLines (lines source.toList) env = applyLines (lines source'.toList) env
    rw [split, split', applyLines_again again before after env (.inr earlier)]
  · intro source source' before rest rest' bad bad' split split' isBad isBad' env
    show applyLines (lines source.toList) env = applyLines (lines source'.toList) env
    rw [split, split', applyLines_of_bad isBad, applyLines_of_bad isBad']

/-- A value with two variables in it, a second assignment, and a bad line. -/
theorem fills_gaps_substituted :
    let env : Environment := fun name => if name = "B" then .text "" else if name = "C" then .undecodable else .unset
    let source := "A=1\nB=2\nC=\"$A $\x7bB\x7d\"\nA=3\n=\nD=4"
    withFile (some source) env = filled env [("A", "1"), ("B", "2"), ("C", "1 "), ("A", "3")] ∧
    withFile (some source) env "B" = .text "" ∧
    withFile (some source) env = withFile (some "A=1\nB=2\nC=\"$A $\x7bB\x7d\"\n=\nD=4") env ∧
    withFile (some source) env = withFile (some "A=1\nB=2\nC=\"$A $\x7bB\x7d\"\nA=3\n'") env := by
  intro env source
  obtain ⟨whole, kept, again, bad⟩ := fills_gaps
  let front := ["A=1".toList, "B=2".toList, "C=\"$A $\x7bB\x7d\"".toList]
  have made : assignments env (goodLines source) = [("A", "1"), ("B", "2"), ("C", "1 "), ("A", "3")] := by
    decide +kernel
  refine ⟨made ▸ (whole source env).1, kept source env "B" "" rfl, ?_, ?_⟩
  · have second : Assigns "A=3".toList "A" := ⟨"3", by decide +kernel⟩
    have first : ∃ earlier ∈ front, Assigns earlier "A" := ⟨_, List.mem_cons_self, "1", by decide +kernel⟩
    exact again source _ front ["=".toList, "D=4".toList] _ "A" (by decide +kernel) (by decide +kernel) second first env
  · exact bad source _ (front ++ ["A=3".toList]) ["D=4".toList] [] "=".toList "'".toList (by decide +kernel)
      (by decide +kernel) (by decide +kernel) (by decide +kernel) env

end SearchDomain.Settings.EnvFile
