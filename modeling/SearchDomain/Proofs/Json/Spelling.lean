import SearchDomain.Json.Record
/-!
# Spelling — the texts of JSON documents

The grammar of the format, apart from any reader. A character of a string may be spelled in several ways, blanks may
stand between tokens, and members and items are told by their own texts, so that what a reader does with a text can be
told member by member. A value begins with a character that is no blank and no bracket that closes (`ValueText.begins`),
and is followed by something that cannot go on with it (`Delimited`).
-/
namespace SearchDomain

theorem Text.Hex.value?_lower : ∀ n < 16, Text.Hex.value? (Text.Hex.lower n) = some n := by decide

namespace Json

/-- Blanks, of which there may be any number between two tokens. -/
def Blank (cs : List Char) : Prop := ∀ c ∈ cs, isBlank c = true

instance (cs : List Char) : Decidable (Blank cs) := List.decidableBAll _ cs

theorem blank_nil : Blank [] := fun _ h => nomatch h

theorem skipBlanks_append {b : List Char} (h : Blank b) (cs : List Char) : skipBlanks (b ++ cs) = skipBlanks cs := by
  induction b with
  | nil => rfl
  | cons c b ih =>
    have hc : isBlank c = true := h c List.mem_cons_self
    show List.dropWhile isBlank (c :: (b ++ cs)) = _
    rw [List.dropWhile_cons, if_pos hc]
    exact ih fun d hd => h d (List.mem_cons_of_mem _ hd)

theorem skipBlanks_eq_nil {b : List Char} (h : Blank b) : skipBlanks b = [] := by
  have := skipBlanks_append h []
  rwa [List.append_nil] at this

theorem skipBlanks_cons {c : Char} (h : isBlank c = false) (cs : List Char) : skipBlanks (c :: cs) = c :: cs := by
  unfold skipBlanks
  rw [List.dropWhile_cons, h]
  rfl

/-! ## Strings -/

/-- What may stand for a character in a literal. -/
inductive Spelled : Char → List Char → Prop
  | plain {c : Char} (quote : c ≠ '"') (backslash : c ≠ '\\') (printable : ¬ c.toNat < 0x20) : Spelled c [c]
  | short {e c : Char} (short : shortEscape? e = some c) : Spelled c ['\\', e]
  | code {h₁ h₂ h₃ h₄ : Char} {n : Nat} (value : hexValue? h₁ h₂ h₃ h₄ = some n) (low : isLowSurrogate n = false)
      (high : isHighSurrogate n = false) : Spelled (Char.ofNat n) ['\\', 'u', h₁, h₂, h₃, h₄]
  | pair {h₁ h₂ h₃ h₄ l₁ l₂ l₃ l₄ : Char} {n m : Nat} (value : hexValue? h₁ h₂ h₃ h₄ = some n)
      (high : isHighSurrogate n = true) (value' : hexValue? l₁ l₂ l₃ l₄ = some m) (low : isLowSurrogate m = true) :
      Spelled (joinSurrogates n m) ['\\', 'u', h₁, h₂, h₃, h₄, '\\', 'u', l₁, l₂, l₃, l₄]

/-- What may stand between the quotes of a literal. -/
inductive Spells : List Char → List Char → Prop
  | nil : Spells [] []
  | cons {c : Char} {s cs ds : List Char} (first : Spelled c cs) (rest : Spells s ds) : Spells (c :: s) (cs ++ ds)

/-- A literal of a string. -/
inductive Literal (s : String) : List Char → Prop
  | quoted {body : List Char} (spells : Spells s.toList body) : Literal s ('"' :: (body ++ ['"']))

theorem isLowSurrogate_of_lt {n : Nat} (h : n < 0xD800) : isLowSurrogate n = false := by
  unfold isLowSurrogate
  simp only [Bool.and_eq_false_iff, decide_eq_false_iff_not]
  omega

theorem isHighSurrogate_of_lt {n : Nat} (h : n < 0xD800) : isHighSurrogate n = false := by
  unfold isHighSurrogate
  simp only [Bool.and_eq_false_iff, decide_eq_false_iff_not]
  omega

/-- The four digits of a control character are read as its code. -/
theorem hexValue?_control {n : Nat} (h : n < 0x20) :
    hexValue? '0' '0' (Text.Hex.lower (n / 16)) (Text.Hex.lower (n % 16)) = some n := by
  have hzero : Text.Hex.value? '0' = some 0 := by decide
  unfold hexValue?
  rw [hzero, Text.Hex.value?_lower _ (by omega), Text.Hex.value?_lower _ (by omega)]
  show some (((0 * 16 + 0) * 16 + n / 16) * 16 + n % 16) = some n
  congr 1
  omega

theorem spelled_escapeChar (c : Char) : Spelled c (escapeChar c) := by
  unfold escapeChar
  by_cases hq : c = '"'
  · subst hq
    exact .short (by decide)
  by_cases hb : c = '\\'
  · subst hb
    exact .short (by decide)
  by_cases h₁ : c = '\x08'
  · subst h₁
    exact .short (by decide)
  by_cases h₂ : c = '\t'
  · subst h₂
    exact .short (by decide)
  by_cases h₃ : c = '\n'
  · subst h₃
    exact .short (by decide)
  by_cases h₄ : c = '\x0c'
  · subst h₄
    exact .short (by decide)
  by_cases h₅ : c = '\r'
  · subst h₅
    exact .short (by decide)
  rw [if_neg hq, if_neg hb, if_neg h₁, if_neg h₂, if_neg h₃, if_neg h₄, if_neg h₅]
  by_cases h : c.toNat < 0x20
  · rw [if_pos h]
    have spelled := Spelled.code (hexValue?_control h) (isLowSurrogate_of_lt (by omega))
      (isHighSurrogate_of_lt (by omega))
    rwa [Char.ofNat_toNat] at spelled
  · rw [if_neg h]
    exact .plain hq hb h

theorem spells_escapeChar : ∀ s : List Char, Spells s (s.flatMap escapeChar)
  | [] => .nil
  | c :: s => by
    rw [List.flatMap_cons]
    exact .cons (spelled_escapeChar c) (spells_escapeChar s)

theorem literal_writeString (s : String) : Literal s (writeString s) := .quoted (spells_escapeChar s.toList)

/-! ## Numbers -/

def Digits (cs : List Char) : Prop := ∀ c ∈ cs, isDigit c = true

inductive WholeText : List Char → Prop
  | zero : WholeText ['0']
  | digits {d : Char} {ds : List Char} (nonzero : d ≠ '0') (digits : Digits (d :: ds)) : WholeText (d :: ds)

inductive FractionText : List Char → Prop
  | none : FractionText []
  | point {d : Char} {ds : List Char} (digits : Digits (d :: ds)) : FractionText ('.' :: d :: ds)

inductive ExponentText : List Char → Prop
  | none : ExponentText []
  | mark {e : Char} {sign : List Char} {d : Char} {ds : List Char} (mark : isExponentMark e = true)
      (signed : sign = [] ∨ sign = ['+'] ∨ sign = ['-']) (digits : Digits (d :: ds)) :
      ExponentText (e :: (sign ++ d :: ds))

/-- A number without its sign. -/
inductive UnsignedText : List Char → Prop
  | parts {ws fs es : List Char} (whole : WholeText ws) (fraction : FractionText fs) (exponent : ExponentText es) :
      UnsignedText (ws ++ (fs ++ es))

inductive NumberText : List Char → Prop
  | positive {cs : List Char} (unsigned : UnsignedText cs) : NumberText cs
  | negative {cs : List Char} (unsigned : UnsignedText cs) : NumberText ('-' :: cs)

/-! ## Lists and objects -/

/-- What separates a member or an item from the one before it. -/
def separator : (first : Bool) → List Char
  | true => []
  | false => [',']

/-- The items of a list up to the closing bracket, each told by its text; a comma stands before all but the first. -/
inductive ItemsText : (first : Bool) → List (List Char) → List Char → Prop
  | close {first : Bool} {b : List Char} (blank : Blank b) : ItemsText first [] (b ++ [']'])
  | item {first : Bool} {b i item cs : List Char} {items : List (List Char)} (before : Blank b) (after : Blank i)
      (rest : ItemsText false items cs) : ItemsText first (item :: items)
        (b ++ (separator first ++ (i ++ (item ++ cs))))

/-- The members of an object up to the closing bracket, each told by its key and the text of its value. -/
inductive MembersText : (first : Bool) → List (String × List Char) → List Char → Prop
  | close {first : Bool} {b : List Char} (blank : Blank b) : MembersText first [] (b ++ ['}'])
  | member {first : Bool} {b k g w name value cs : List Char} {key : String}
      {members : List (String × List Char)} (before : Blank b) (beforeKey : Blank k) (literal : Literal key name)
      (beforeColon : Blank g) (beforeValue : Blank w) (rest : MembersText false members cs) :
      MembersText first ((key, value) :: members)
        (b ++ (separator first ++ (k ++ (name ++ (g ++ ':' :: (w ++ (value ++ cs)))))))

/-- A list with items that have these texts. -/
inductive ArrayText (items : List (List Char)) : List Char → Prop
  | brackets {cs : List Char} (inside : ItemsText true items cs) : ArrayText items ('[' :: cs)

/-- An object with members that have these keys and value texts. -/
inductive ObjectText (members : List (String × List Char)) : List Char → Prop
  | brackets {cs : List Char} (inside : MembersText true members cs) : ObjectText members ('{' :: cs)

/-- A value. Nothing is asked of its size or depth, or of the keys of its objects. -/
inductive ValueText : List Char → Prop
  | null : ValueText ['n', 'u', 'l', 'l']
  | true : ValueText ['t', 'r', 'u', 'e']
  | false : ValueText ['f', 'a', 'l', 's', 'e']
  | number {cs : List Char} (number : NumberText cs) : ValueText cs
  | string {s : String} {cs : List Char} (literal : Literal s cs) : ValueText cs
  | array {items : List (List Char)} {cs : List Char} (spelled : ArrayText items cs)
      (values : ∀ item ∈ items, ValueText item) : ValueText cs
  | object {members : List (String × List Char)} {cs : List Char} (spelled : ObjectText members cs)
      (values : ∀ member ∈ members, ValueText member.2) : ValueText cs

/-! ## What the writer spells -/

theorem itemsText_writeItems : ∀ vs : List Json, ItemsText false (vs.map write) (writeItems vs)
  | [] => .close blank_nil
  | _ :: vs => .item blank_nil blank_nil (itemsText_writeItems vs)

theorem arrayText_write : ∀ vs : List Json, ArrayText (vs.map write) (Json.array vs).write
  | [] => .brackets (.close blank_nil)
  | _ :: vs => .brackets (.item (b := []) (i := []) blank_nil blank_nil (itemsText_writeItems vs))

theorem membersText_writeMembers :
    ∀ ms : List (String × Json), MembersText false (ms.map fun m => (m.1, m.2.write)) (writeMembers ms)
  | [] => .close blank_nil
  | (k, v) :: ms => by
    have h : MembersText false ((k, v.write) :: _) _ := .member blank_nil blank_nil (literal_writeString k) blank_nil
      blank_nil (membersText_writeMembers ms)
    simpa [writeMembers, separator] using h

theorem objectText_write :
    ∀ ms : List (String × Json), ObjectText (ms.map fun m => (m.1, m.2.write)) (Json.object ms).write
  | [] => .brackets (.close blank_nil)
  | (k, v) :: ms => by
    have h : MembersText true ((k, v.write) :: _) _ := .member blank_nil blank_nil (literal_writeString k) blank_nil
      blank_nil (membersText_writeMembers ms)
    exact .brackets (by simpa [separator] using h)

/-! ## Where a value begins and ends -/

/-- What cannot go on with a value: the end, a blank, a comma, or a bracket that closes. -/
def Delimited (rest : List Char) : Prop :=
  ∀ c ∈ rest.head?, isBlank c = true ∨ c = ',' ∨ c = ']' ∨ c = '}'

theorem delimited_nil : Delimited [] := fun _ h => nomatch h

theorem delimited_cons {c : Char} {cs : List Char} (h : isBlank c = true ∨ c = ',' ∨ c = ']' ∨ c = '}') :
    Delimited (c :: cs) := fun d hd => by
  cases hd
  exact h

theorem Blank.delimited {b rest : List Char} (blank : Blank b) (h : Delimited rest) : Delimited (b ++ rest) := by
  cases b with
  | nil => exact h
  | cons c b => exact delimited_cons (.inl (blank c List.mem_cons_self))

theorem Blank.delimited_end {b : List Char} (blank : Blank b) : Delimited b := by
  have := blank.delimited delimited_nil
  rwa [List.append_nil] at this

theorem ItemsText.delimited {items : List (List Char)} {cs : List Char} (h : ItemsText false items cs)
    (rest : List Char) : Delimited (cs ++ rest) := by
  cases h with
  | close blank =>
    rw [List.append_assoc]
    exact blank.delimited (delimited_cons (.inr (.inr (.inl rfl))))
  | item before =>
    rw [List.append_assoc]
    exact before.delimited (delimited_cons (.inr (.inl rfl)))

theorem MembersText.delimited {members : List (String × List Char)} {cs : List Char}
    (h : MembersText false members cs) (rest : List Char) : Delimited (cs ++ rest) := by
  cases h with
  | close blank =>
    rw [List.append_assoc]
    exact blank.delimited (delimited_cons (.inr (.inr (.inr rfl))))
  | member before =>
    rw [List.append_assoc]
    exact before.delimited (delimited_cons (.inr (.inl rfl)))

/-- What a value may begin with. -/
def Begins (cs : List Char) : Prop := ∃ c tail, cs = c :: tail ∧ isBlank c = false ∧ c ≠ ']'

theorem ne_of_isDigit {c d : Char} (h : isDigit c = true) (hd : isDigit d = false) : c ≠ d := by
  rintro rfl
  cases h.symm.trans hd

theorem isBlank_of_isDigit {c : Char} (h : isDigit c = true) : isBlank c = false := by
  have hne : ∀ d : Char, isDigit d = false → c ≠ d := fun d hd => ne_of_isDigit h hd
  unfold isBlank
  simp [hne ' ' (by decide), hne '\n' (by decide), hne '\t' (by decide), hne '\r' (by decide)]

theorem UnsignedText.head {cs : List Char} (h : UnsignedText cs) : ∃ c tail, cs = c :: tail ∧ isDigit c = true := by
  cases h with
  | parts whole =>
    cases whole with
    | zero => exact ⟨'0', _, rfl, by decide⟩
    | digits _ digits => exact ⟨_, _, rfl, digits _ List.mem_cons_self⟩

theorem NumberText.head {cs : List Char} (h : NumberText cs) :
    ∃ c tail, cs = c :: tail ∧ (c = '-' ∨ isDigit c = true) := by
  cases h with
  | positive unsigned =>
    obtain ⟨c, tail, rfl, hc⟩ := unsigned.head
    exact ⟨c, tail, rfl, .inr hc⟩
  | negative unsigned => exact ⟨'-', _, rfl, .inl rfl⟩

theorem ValueText.begins {cs : List Char} (h : ValueText cs) : Begins cs := by
  cases h with
  | null => exact ⟨_, _, rfl, by decide, by decide⟩
  | true => exact ⟨_, _, rfl, by decide, by decide⟩
  | false => exact ⟨_, _, rfl, by decide, by decide⟩
  | number number =>
    obtain ⟨c, tail, rfl, rfl | hc⟩ := number.head
    · exact ⟨_, _, rfl, by decide, by decide⟩
    · exact ⟨_, _, rfl, isBlank_of_isDigit hc, ne_of_isDigit hc (by decide)⟩
  | string literal =>
    cases literal
    exact ⟨_, _, rfl, by decide, by decide⟩
  | array spelled =>
    cases spelled
    exact ⟨_, _, rfl, by decide, by decide⟩
  | object spelled =>
    cases spelled
    exact ⟨_, _, rfl, by decide, by decide⟩

end Json
end SearchDomain
