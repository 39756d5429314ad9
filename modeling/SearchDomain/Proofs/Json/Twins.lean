import SearchDomain.Proofs.Json.Passing
/-!
# Twins — two texts that differ in one literal

Two texts are twins if they are the same but for the inside of one plain literal, of the same number of bytes in both,
that stands where no key is due and within no other literal (`Twins`). Where that is, is told by the characters before
it alone (`Spot`). What the readers make of twins agrees: at the same place they find the same fault, or what they
leave are twins again (`Agree`). Here that is shown for the leaves of the grammar, one lemma for each reader.
-/
namespace SearchDomain.Json

variable {α β : Type}

/-- What may come next: a value, a key, what goes on after a value, or more of a literal. -/
inductive Mode
  | value
  | key
  | done
  | string
  | escape
  deriving DecidableEq, Repr

/-- Where a text has led: what may come next, and the brackets that are open. -/
structure Spot where
  mode : Mode
  opened : List Bracket
  deriving DecidableEq, Repr

namespace Spot

/-- Where a text begins. -/
def start : Spot := ⟨.value, []⟩

/-- What may come next in an open bracket after a comma. -/
def separated : List Bracket → Mode
  | .object :: _ => .key
  | _ => .value

def next (s : Spot) (c : Char) : Spot :=
  match s.mode with
  | .string => ⟨if c = '"' then .done else if c = '\\' then .escape else .string, s.opened⟩
  | .escape => ⟨.string, s.opened⟩
  | _ =>
    if isBlank c then s
    else if c = '"' then ⟨.string, s.opened⟩
    else if c = '[' then ⟨.value, .list :: s.opened⟩
    else if c = '{' then ⟨.key, .object :: s.opened⟩
    else if c = ']' ∨ c = '}' then ⟨.done, s.opened.tail⟩
    else if c = ':' then ⟨.value, s.opened⟩
    else if c = ',' then ⟨separated s.opened, s.opened⟩
    else ⟨.done, s.opened⟩

/-- Where a text leads. -/
def after (s : Spot) (cs : List Char) : Spot := cs.foldl next s

/-- Outside of literals. -/
def Between (s : Spot) : Prop := s.mode ≠ .string ∧ s.mode ≠ .escape

/-- A literal that begins here is a value, or stands where the text has gone wrong, but is no key. -/
def Free (s : Spot) : Prop := s.mode = .value ∨ s.mode = .done

instance (s : Spot) : Decidable s.Between := inferInstanceAs (Decidable (_ ∧ _))

instance (s : Spot) : Decidable s.Free := inferInstanceAs (Decidable (_ ∨ _))

/-- A character that neither is blank nor begins or ends anything. -/
def Inert (c : Char) : Prop :=
  isBlank c = false ∧ c ≠ '"' ∧ c ≠ '[' ∧ c ≠ '{' ∧ c ≠ ']' ∧ c ≠ '}' ∧ c ≠ ':' ∧ c ≠ ','

instance (c : Char) : Decidable (Inert c) := inferInstanceAs (Decidable (_ ∧ _))

variable {s : Spot} {o : List Bracket} {c : Char}

theorem between_value : Between ⟨.value, o⟩ := ⟨by simp, by simp⟩

theorem between_key : Between ⟨.key, o⟩ := ⟨by simp, by simp⟩

theorem between_done : Between ⟨.done, o⟩ := ⟨by simp, by simp⟩

theorem not_free_key : ¬ Free ⟨.key, o⟩ := by simp [Free]

theorem not_free_string : ¬ Free ⟨.string, o⟩ := by simp [Free]

theorem not_free_escape : ¬ Free ⟨.escape, o⟩ := by simp [Free]

theorem between_separated (o : List Bracket) : Between ⟨separated o, o⟩ := by
  match o with
  | [] | .list :: _ => exact between_value
  | .object :: _ => exact between_key

theorem next_between (h : s.Between) (c : Char) :
    s.next c =
      if isBlank c then s
      else if c = '"' then ⟨.string, s.opened⟩
      else if c = '[' then ⟨.value, .list :: s.opened⟩
      else if c = '{' then ⟨.key, .object :: s.opened⟩
      else if c = ']' ∨ c = '}' then ⟨.done, s.opened.tail⟩
      else if c = ':' then ⟨.value, s.opened⟩
      else if c = ',' then ⟨separated s.opened, s.opened⟩
      else ⟨.done, s.opened⟩ := by
  obtain ⟨mode, opened⟩ := s
  cases mode with
  | string => exact absurd rfl h.1
  | escape => exact absurd rfl h.2
  | _ => rfl

theorem next_blank (h : s.Between) (blank : isBlank c = true) : s.next c = s := by
  rw [next_between h, if_pos blank]

theorem next_inert (h : s.Between) (inert : Inert c) : s.next c = ⟨.done, s.opened⟩ := by
  obtain ⟨h₀, h₁, h₂, h₃, h₄, h₅, h₆, h₇⟩ := inert
  simp [next_between h, h₀, h₁, h₂, h₃, h₄, h₅, h₆, h₇]

theorem next_quote (h : s.Between) : s.next '"' = ⟨.string, s.opened⟩ := next_between h _

theorem next_colon (h : s.Between) : s.next ':' = ⟨.value, s.opened⟩ := next_between h _

theorem next_comma (h : s.Between) : s.next ',' = ⟨separated s.opened, s.opened⟩ := next_between h _

theorem next_open (h : s.Between) :
    s.next '[' = ⟨.value, .list :: s.opened⟩ ∧ s.next '{' = ⟨.key, .object :: s.opened⟩ :=
  ⟨next_between h _, next_between h _⟩

theorem next_close (h : s.Between) (bracket : Bracket) : s.next bracket.close = ⟨.done, s.opened.tail⟩ := by
  cases bracket <;> exact next_between h _

theorem inert_digit (h : isDigit c = true) : Inert c := by
  have hne : ∀ d : Char, isDigit d = false → c ≠ d := fun d hd => ne_of_isDigit h hd
  exact ⟨isBlank_of_isDigit h, hne _ (by decide), hne _ (by decide), hne _ (by decide), hne _ (by decide),
    hne _ (by decide), hne _ (by decide), hne _ (by decide)⟩

theorem inert_mark (h : isExponentMark c = true) : Inert c := by
  unfold isExponentMark at h
  simp only [Bool.or_eq_true, beq_iff_eq] at h
  rcases h with rfl | rfl <;> decide

theorem inert_word {word : List Char} (h : word.all (fun c => decide (Inert c)) = true) : ∀ c ∈ word, Inert c :=
  fun c hc => of_decide_eq_true (List.all_eq_true.1 h c hc)

end Spot

/-! ## Twins -/

/-- Characters that a literal holds as they are. -/
def Plain (cs : List Char) : Prop := ∀ c ∈ cs, c ≠ '"' ∧ c ≠ '\\' ∧ 0x20 ≤ c.toNat

instance (cs : List Char) : Decidable (Plain cs) := List.decidableBAll _ cs

/-- What stands between the quotes of the two literals. -/
structure Interchangeable (p q : List Char) : Prop where
  left : Plain p
  right : Plain q
  size : byteLength p = byteLength q

variable {p q : List Char}

/-- Texts from a spot on: the same, or the same up to a literal and after it. -/
inductive Twins (p q : List Char) : Spot → List Char → List Char → Prop
  | nil (s : Spot) : Twins p q s [] []
  | char {s : Spot} {c : Char} {cs cs' : List Char} (rest : Twins p q (s.next c) cs cs') :
      Twins p q s (c :: cs) (c :: cs')
  | literal {s : Spot} (free : s.Free) (after : List Char) :
      Twins p q s ('"' :: (p ++ '"' :: after)) ('"' :: (q ++ '"' :: after))

variable {s : Spot} {o : List Bracket} {c : Char} {cs cs' : List Char}

theorem Twins.refl (s : Spot) (cs : List Char) : Twins p q s cs cs := by
  induction cs generalizing s with
  | nil => exact .nil s
  | cons c cs ih => exact .char (ih _)

theorem Twins.around {before : List Char} (free : (s.after before).Free) (after : List Char) :
    Twins p q s (before ++ '"' :: (p ++ '"' :: after)) (before ++ '"' :: (q ++ '"' :: after)) := by
  induction before generalizing s with
  | nil => exact .literal free after
  | cons c before ih => exact .char (ih free)

theorem foldl_size (cs : List Char) (n : Nat) : cs.foldl (fun n c => n + c.utf8Size) n = n + byteLength cs := by
  unfold byteLength
  induction cs generalizing n with
  | nil => rfl
  | cons c cs ih =>
    rw [List.foldl_cons, List.foldl_cons, ih, ih (0 + c.utf8Size)]
    omega

theorem byteLength_cons (c : Char) (cs : List Char) : byteLength (c :: cs) = c.utf8Size + byteLength cs := by
  show cs.foldl _ (0 + c.utf8Size) = _
  rw [foldl_size, Nat.zero_add]

theorem byteLength_append (cs ds : List Char) : byteLength (cs ++ ds) = byteLength cs + byteLength ds := by
  unfold byteLength
  rw [List.foldl_append, foldl_size ds]
  rfl

theorem Twins.byteLength_eq (same : Interchangeable p q) (h : Twins p q s cs cs') : byteLength cs = byteLength cs' := by
  induction h with
  | nil => rfl
  | char _ ih => rw [byteLength_cons, byteLength_cons, ih]
  | literal => rw [byteLength_cons, byteLength_cons, byteLength_append, byteLength_append, same.size]

/-- Blanks lead nowhere. -/
theorem Twins.skipBlanks (between : s.Between) (h : Twins p q s cs cs') :
    Twins p q s (skipBlanks cs) (skipBlanks cs') := by
  induction h with
  | nil s => exact .nil s
  | @char s c cs cs' rest ih =>
    by_cases hc : isBlank c = true
    · rw [Spot.next_blank between hc] at ih
      have hskip : ∀ ds, Json.skipBlanks (c :: ds) = Json.skipBlanks ds := fun ds =>
        skipBlanks_append (b := [c]) (fun d hd => List.mem_singleton.1 hd ▸ hc) ds
      rw [hskip, hskip]
      exact ih between
    · rw [skipBlanks_cons (Bool.not_eq_true _ ▸ hc), skipBlanks_cons (Bool.not_eq_true _ ▸ hc)]
      exact .char rest
  | literal free after => exact .literal free after

theorem Twins.head?_eq (h : Twins p q s cs cs') : cs.head? = cs'.head? := by
  cases h <;> rfl

theorem Twins.eq_nil_iff (h : Twins p q s cs cs') : cs = [] ↔ cs' = [] := by
  rw [← List.head?_eq_none_iff, ← List.head?_eq_none_iff, h.head?_eq]

/-! ## Agreement -/

/-- Both fail, with faults that are alike, or both succeed, with results that are alike. -/
inductive Agree {ε : Type} (F : ε → ε → Prop) (R : α → α → Prop) : Except ε α → Except ε α → Prop
  | error {e e' : ε} (alike : F e e') : Agree F R (.error e) (.error e')
  | ok {x x' : α} (alike : R x x') : Agree F R (.ok x) (.ok x')

theorem Agree.bind {ε : Type} {F : ε → ε → Prop} {R : α → α → Prop} {S : β → β → Prop} {a a' : Except ε α}
    {f f' : α → Except ε β} (first : Agree F R a a')
    (rest : ∀ x x', a = .ok x → a' = .ok x' → R x x' → Agree F S (f x) (f' x')) :
    Agree F S (a >>= f) (a' >>= f') := by
  cases first with
  | error alike => exact .error alike
  | ok alike => exact rest _ _ rfl rfl alike

theorem Agree.map {ε : Type} {F : ε → ε → Prop} {R : α → α → Prop} {S : β → β → Prop} {a a' : Except ε α}
    {f f' : α → β} (first : Agree F R a a') (rest : ∀ x x', R x x' → S (f x) (f' x')) :
    Agree F S (a.map f) (a'.map f') := by
  cases first with
  | error alike => exact .error alike
  | ok alike => exact .ok (rest _ _ alike)

theorem Agree.imp {ε : Type} {F : ε → ε → Prop} {R S : α → α → Prop} {a a' : Except ε α} (first : Agree F R a a')
    (rest : ∀ x x', R x x' → S x x') : Agree F S a a' := by
  cases first with
  | error alike => exact .error alike
  | ok alike => exact .ok (rest _ _ alike)

theorem Agree.mapError {ε ε' : Type} {F : ε → ε → Prop} {G : ε' → ε' → Prop} {R : α → α → Prop} {a a' : Except ε α}
    {f f' : ε → ε'} (first : Agree F R a a') (rest : ∀ e e', F e e' → G (f e) (f' e')) :
    Agree G R (a.mapError f) (a'.mapError f') := by
  cases first with
  | error alike => exact .error (rest _ _ alike)
  | ok alike => exact .ok alike

/-- Faults of the same kind at the same place. -/
structure Fault.Alike (f f' : Fault) : Prop where
  reason : f.reason = f'.reason
  rest : byteLength f.rest = byteLength f'.rest
  ahead : f.ahead = f'.ahead

abbrev Agrees (R : α → α → Prop) : Except Fault α → Except Fault α → Prop := Agree Fault.Alike R

/-- Alike results, and twins that are left. -/
def Leaves (p q : List Char) (R : α → α → Prop) (s : Spot) (x x' : α × List Char) : Prop :=
  R x.1 x'.1 ∧ Twins p q s x.2 x'.2

theorem agrees_fail {R : α → α → Prop} (reason : Reason) (size : byteLength cs = byteLength cs') :
    Agrees R (fail reason cs) (fail reason cs') := .error ⟨rfl, size, rfl⟩

theorem agrees_failNext {R : α → α → Prop} (reason : Reason) (size : byteLength cs = byteLength cs') :
    Agrees R (failNext reason cs) (failNext reason cs') := .error ⟨rfl, size, rfl⟩

end SearchDomain.Json
