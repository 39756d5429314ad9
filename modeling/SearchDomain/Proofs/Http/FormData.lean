import Mathlib.Data.List.Infix
import Mathlib.Data.List.TakeWhile
import SearchDomain.Http.Header
import SearchDomain.Proofs.Text.Joined
import SearchDomain.Proofs.Text.Utf8
/-!
# FormData — forms as they are received

A form is read without knowing who wrote it. Its body is cut at the first delimiter and then at each that follows, up
to the closing one. A part is cut into the lines of its headers and, behind an empty line, its content, and the headers
say which field of the form it is. A text is found in front of the first delimiter that follows it if no delimiter
occurs in it (`dropInfix?_append`).
-/
namespace SearchDomain.Http.FormData

open Text.Utf8 (Bytes ofString)

/-- What a field of a form is called, and what it holds. -/
structure Field where
  name : String
  fileName : Option String
  contentType : Option String
  content : Bytes
  deriving DecidableEq, Repr

/-- The fields of a form in order, and what stands before the first delimiter and behind the closing one. -/
structure Form where
  preamble : Bytes
  fields : List Field
  epilogue : Bytes
  deriving DecidableEq, Repr

/-! ## Lengths

Each cut leaves less to read. -/

theorem length_of_dropInfix? {bytes infix? front rest : Bytes} (h : bytes.dropInfix? infix? = some (front, rest)) :
    rest.length ≤ bytes.length - infix?.length ∧ infix?.length ≤ bytes.length := by
  obtain ⟨⟨found, rfl, same⟩, -⟩ := List.dropInfix?_eq_some_iff.1 h
  obtain rfl := eq_of_beq same
  simp only [List.length_append]
  omega

theorem length_of_dropPrefix? {bytes start rest : Bytes} (h : bytes.dropPrefix? start = some rest) :
    bytes.length = start.length + rest.length := by
  obtain ⟨found, rfl, same⟩ := List.dropPrefix?_eq_some_iff.1 h
  obtain rfl := eq_of_beq same
  rw [List.length_append]

/-! ## Headers of a part -/

def lineEnd : Bytes := [13, 10]

/-- A line of a header: a name, a colon and a value, with blanks in front of the value. -/
def header? (line : Bytes) : Option Header := do
  let text ← (Text.Utf8.decode line).toOption
  match text.toList.dropWhile (· ≠ ':') with
  | [] => none
  | _ :: value =>
    some (Header.lowerName (String.ofList (text.toList.takeWhile (· ≠ ':'))),
      String.ofList (value.dropWhile (· == ' ')))

/-- The headers of a part, and its content behind the empty line. -/
def part? (bytes : Bytes) : Option (List Header × Bytes) :=
  match bytes.dropPrefix? lineEnd with
  | some content => some ([], content)
  | none =>
    match _cut : bytes.dropInfix? lineEnd with
    | none => none
    | some (line, rest) => do
      let header ← header? line
      let (headers, content) ← part? rest
      some (header :: headers, content)
termination_by bytes.length
decreasing_by
  have shorter := length_of_dropInfix? _cut
  have two : lineEnd.length = 2 := rfl
  omega

/-- The parameters of a value, each behind a semicolon. A value in quotes goes up to the next quote, and every character
within stands for itself. -/
def parameters? (cs : List Char) : Option (List (String × String)) :=
  match cs with
  | [] => some []
  | ';' :: rest =>
    let named := rest.dropWhile (· == ' ')
    let name := String.ofList (named.takeWhile (· ≠ '='))
    match _valued : named.dropWhile (· ≠ '=') with
    | '=' :: '"' :: quoted =>
      match _closed : quoted.dropWhile (· ≠ '"') with
      | [] => none
      | _ :: more => (parameters? more).map ((name, String.ofList (quoted.takeWhile (· ≠ '"'))) :: ·)
    | '=' :: plain =>
      (parameters? (plain.dropWhile (· ≠ ';'))).map ((name, String.ofList (plain.takeWhile (· ≠ ';'))) :: ·)
    | _ => none
  | _ => none
termination_by cs.length
decreasing_by
  all_goals
    have named := (List.dropWhile_suffix (fun c => c == ' ') (l := rest)).length_le
    have valued := (List.dropWhile_suffix (fun c => decide (c ≠ '=')) (l := rest.dropWhile (· == ' '))).length_le
    rw [_valued] at valued
    simp only [List.length_cons] at valued ⊢
  · have closed := (List.dropWhile_suffix (fun c => decide (c ≠ '"')) (l := quoted)).length_le
    rw [_closed] at closed
    simp only [List.length_cons] at closed
    omega
  · have closed := (List.dropWhile_suffix (fun c => decide (c ≠ ';')) (l := plain)).length_le
    omega

/-- The parameters of a value of some type. -/
def parametersOf? (type value : String) : Option (List (String × String)) :=
  if value.toList.takeWhile (· ≠ ';') = type.toList then parameters? (value.toList.dropWhile (· ≠ ';')) else none

/-- The field that a part of a form is. -/
def field? (part : List Header × Bytes) : Option Field := do
  let parameters ← parametersOf? "form-data" (← part.1.lookup "content-disposition")
  let name ← parameters.lookup "name"
  some {
    name, fileName := parameters.lookup "filename"
    contentType := part.1.lookup "content-type", content := part.2 }

/-! ## Parts of a form -/

def dashes : Bytes := [45, 45]

/-- What stands between parts: a line of dashes and the boundary, with the line end in front of it. -/
def delimiter (boundary : String) : Bytes := lineEnd ++ (dashes ++ ofString boundary)

/-- What follows the closing delimiter. -/
def epilogue? (bytes : Bytes) : Option Bytes := if bytes = [] then some [] else bytes.dropPrefix? lineEnd

/-- The fields behind a delimiter, and what follows the closing one. -/
def fields? (boundary : String) (bytes : Bytes) : Option (List Field × Bytes) :=
  match bytes.dropPrefix? dashes with
  | some rest => (epilogue? rest).map ([], ·)
  | none =>
    match _line : bytes.dropPrefix? lineEnd with
    | none => none
    | some parts =>
      match _cut : parts.dropInfix? (delimiter boundary) with
      | none => none
      | some (part, rest) => do
        let field ← field? (← part? part)
        let (fields, epilogue) ← fields? boundary rest
        some (field :: fields, epilogue)
termination_by bytes.length
decreasing_by
  have shorter := length_of_dropPrefix? _line
  have shorter' := length_of_dropInfix? _cut
  have two : lineEnd.length = 2 := rfl
  omega

/-- Read the body of a form. The first delimiter may stand at the very start, without a line end in front of it. -/
def form? (boundary : String) (body : Bytes) : Option Form := do
  let (front, rest) ← (lineEnd ++ body).dropInfix? (delimiter boundary)
  let (fields, epilogue) ← fields? boundary rest
  some { preamble := front.drop lineEnd.length, fields, epilogue }

/-- The boundary that the type of a content tells. -/
def boundary? (contentType : String) : Option String := do
  (← parametersOf? "multipart/form-data" contentType).lookup "boundary"

/-! ## Cuts -/

variable {line rest content bytes : Bytes} {boundary name value : String} {more : List Char}

/-- **A text is cut off at the first delimiter behind it** if none occurs within it: a delimiter that begins within the
text and ends behind it would have its first letter twice. -/
theorem dropInfix?_append {α : Type} [BEq α] [LawfulBEq α] {x : α} {t front rest : List α} (once : x ∉ t)
    (apart : ¬ x :: t <:+: front) : (front ++ (x :: t ++ rest)).dropInfix? (x :: t) = some (front, rest) := by
  rw [List.dropInfix?_eq_some_iff]
  refine ⟨⟨x :: t, (List.append_assoc _ _ _).symm, beq_self_eq_true _⟩, fun front' found rest' h same => ?_⟩
  obtain rfl := eq_of_beq same
  refine Nat.not_lt.1 fun short => ?_
  rw [List.append_assoc] at h
  obtain ⟨q, rfl, -⟩ | ⟨q, rfl, behind⟩ := List.append_eq_append_iff.1 h
  · rw [List.length_append] at short
    omega
  obtain ⟨q', rfl, -⟩ | ⟨q', hq, overlap⟩ := List.append_eq_append_iff.1 behind
  · exact apart ⟨front', q', List.append_assoc _ _ _⟩
  cases q with
  | nil =>
    rw [List.append_nil] at short
    exact Nat.lt_irrefl _ short
  | cons y q =>
    obtain ⟨rfl, rfl⟩ := List.cons.inj hq
    cases q' with
    | nil => exact apart ⟨front', [], by simp⟩
    | cons z q' =>
      obtain ⟨rfl, -⟩ := List.cons.inj overlap
      exact once (List.mem_append_right q List.mem_cons_self)

/-- A line without line ends in it. -/
theorem dropInfix?_lineEnd (single : 13 ∉ line) : (line ++ (lineEnd ++ rest)).dropInfix? lineEnd = some (line, rest) :=
  dropInfix?_append (by decide) fun h => single (h.subset List.mem_cons_self)

theorem part?_lineEnd (content : Bytes) : part? (lineEnd ++ content) = some ([], content) := by
  rw [part?, List.dropPrefix?_append_of_beq content (beq_self_eq_true lineEnd)]

theorem part?_line {header : Header} (nonempty : line ≠ []) (single : 13 ∉ line) (read : header? line = some header) :
    part? (line ++ (lineEnd ++ rest)) = (part? rest).map fun (headers, content) => (header :: headers, content) := by
  have no : (line ++ (lineEnd ++ rest)).dropPrefix? lineEnd = none := by
    obtain ⟨b, line, rfl⟩ := List.exists_cons_of_ne_nil nonempty
    have first : b ≠ 13 := fun h => single (h ▸ List.mem_cons_self)
    show (if b == 13 then _ else none) = none
    rw [if_neg (by simpa using first)]
  rw [part?, no]
  simp only
  split
  · rename_i h
    cases h.symm.trans (dropInfix?_lineEnd single)
  · rename_i h
    cases h.symm.trans (dropInfix?_lineEnd single)
    rw [read]
    cases part? rest <;> rfl

/-- A line that spells a header. -/
theorem header?_eq (colon : ':' ∉ name.toList) (value : String) :
    header? (ofString (name ++ ": " ++ value)) =
      some (Header.lowerName name, String.ofList (value.toList.dropWhile (· == ' '))) := by
  have mark : ": ".toList = [':', ' '] := by decide
  have text : (name ++ ": " ++ value).toList = name.toList ++ ':' :: ' ' :: value.toList := by
    rw [String.toList_append, String.toList_append, mark, List.append_assoc]
    rfl
  unfold header?
  rw [Text.Utf8.decode_ofString]
  simp only [Except.toOption, Option.bind_eq_bind, Option.bind_some]
  rw [text, Text.dropWhile_ne_append colon, Text.takeWhile_ne_append colon]
  simp only [String.ofList_toList]
  rw [List.dropWhile_cons_of_pos (by decide)]

/-! ## Parameters -/

theorem parameters?_nil : parameters? [] = some [] := by rw [parameters?]

theorem dropWhile_blank {cs rest : List Char} (solid : ' ' ∉ cs) :
    (' ' :: (cs ++ '=' :: rest)).dropWhile (· == ' ') = cs ++ '=' :: rest := by
  rw [List.dropWhile_cons_of_pos (by decide)]
  cases cs with
  | nil => exact List.dropWhile_cons_of_neg (by decide)
  | cons c cs =>
    have other : c ≠ ' ' := (List.ne_of_not_mem_cons solid).symm
    exact List.dropWhile_cons_of_neg (by simpa using other)

/-- A parameter is found up to its mark. -/
theorem cut_parameter {cs : List Char} (named : ' ' ∉ cs ∧ '=' ∉ cs) (rest : List Char) :
    (((' ' :: (cs ++ '=' :: rest)).dropWhile (· == ' ')).takeWhile (· ≠ '=') = cs) ∧
      ((' ' :: (cs ++ '=' :: rest)).dropWhile (· == ' ')).dropWhile (· ≠ '=') = '=' :: rest := by
  rw [dropWhile_blank named.1]
  exact ⟨Text.takeWhile_ne_append named.2 rest, Text.dropWhile_ne_append named.2 rest⟩

/-- A parameter in quotes. -/
theorem parameters?_quoted (named : ' ' ∉ name.toList ∧ '=' ∉ name.toList) (single : '"' ∉ value.toList) :
    parameters? (';' :: ' ' :: (name.toList ++ '=' :: '"' :: (value.toList ++ '"' :: more))) =
      (parameters? more).map ((name, value) :: ·) := by
  obtain ⟨front, back⟩ := cut_parameter named ('"' :: (value.toList ++ '"' :: more))
  have inside := Text.takeWhile_ne_append single more
  have outside := Text.dropWhile_ne_append single more
  rw [parameters?]
  simp only [front]
  split
  · rename_i quoted hq
    cases hq.symm.trans back
    split
    · rename_i h
      cases h.symm.trans outside
    · rename_i h
      cases h.symm.trans outside
      rw [inside, String.ofList_toList, String.ofList_toList]
  · rename_i plain' notQuoted hq
    cases hq.symm.trans back
    exact absurd rfl (notQuoted _)
  · rename_i none
    exact absurd back (none _)

/-- A last parameter without quotes. -/
theorem parameters?_plain {c : Char} {cs : List Char} (named : ' ' ∉ name.toList ∧ '=' ∉ name.toList) (bare : c ≠ '"')
    (last : ';' ∉ c :: cs) : parameters? (';' :: ' ' :: (name.toList ++ '=' :: c :: cs)) =
      some [(name, String.ofList (c :: cs))] := by
  obtain ⟨front, back⟩ := cut_parameter named (c :: cs)
  have plain : ∀ d ∈ c :: cs, decide (d ≠ ';') = true := fun d h => decide_eq_true fun he => last (he ▸ h)
  rw [parameters?]
  simp only [front]
  split
  · rename_i quoted hq
    cases hq.symm.trans back
    exact absurd rfl bare
  · rename_i bare' notQuoted hq
    cases hq.symm.trans back
    rw [List.takeWhile_eq_self_iff.2 plain, List.dropWhile_eq_nil_iff.2 plain, parameters?_nil, String.ofList_toList]
    rfl
  · rename_i none
    exact absurd back (none _)

theorem parametersOf?_eq {type : String} (single : ';' ∉ type.toList)
    (spelled : value.toList = type.toList ++ ';' :: more) :
    parametersOf? type value = parameters? (';' :: more) := by
  unfold parametersOf?
  rw [spelled, Text.takeWhile_ne_append single, Text.dropWhile_ne_append single, if_pos rfl]

/-! ## Fields -/

/-- A delimiter has its first letter once, as long as there is none in the boundary. -/
theorem once_delimiter (plain : '\r' ∉ boundary.toList) : 13 ∉ 10 :: (dashes ++ ofString boundary) := by
  intro h
  obtain h | h := List.mem_cons.1 h
  · exact absurd h (by decide)
  obtain h | h := List.mem_append.1 h
  · exact absurd h (by decide)
  · exact plain (Text.Utf8.mem_of_mem_ofString (by decide) h)

theorem fields?_closing (boundary : String) : fields? boundary (dashes ++ lineEnd) = some ([], []) := by
  rw [fields?]
  rfl

theorem fields?_part {part : List Header × Bytes} {field : Field} (plain : '\r' ∉ boundary.toList)
    (apart : ¬ delimiter boundary <:+: bytes) (read : part? bytes = some part) (named : field? part = some field) :
    fields? boundary (lineEnd ++ (bytes ++ (delimiter boundary ++ rest))) =
      (fields? boundary rest).map fun (fields, epilogue) => (field :: fields, epilogue) := by
  have open? : (lineEnd ++ (bytes ++ (delimiter boundary ++ rest))).dropPrefix? dashes = none := rfl
  have line : (lineEnd ++ (bytes ++ (delimiter boundary ++ rest))).dropPrefix? lineEnd =
      some (bytes ++ (delimiter boundary ++ rest)) := List.dropPrefix?_append_of_beq _ (beq_self_eq_true lineEnd)
  have cut : (bytes ++ (delimiter boundary ++ rest)).dropInfix? (delimiter boundary) = some (bytes, rest) :=
    dropInfix?_append (once_delimiter plain) apart
  rw [fields?, open?]
  simp only
  split
  · rename_i h
    cases h.symm.trans line
  · rename_i h
    cases h.symm.trans line
    split
    · rename_i h
      cases h.symm.trans cut
    · rename_i h
      cases h.symm.trans cut
      rw [read]
      simp only [Option.bind_eq_bind, Option.bind_some, named]
      cases fields? boundary rest <;> rfl

/-- A form that begins with a delimiter. -/
theorem form?_eq {body : Bytes} (plain : '\r' ∉ boundary.toList)
    (starts : lineEnd ++ body = delimiter boundary ++ rest) :
    form? boundary body = (fields? boundary rest).map fun (fields, epilogue) => ⟨[], fields, epilogue⟩ := by
  have cut : ([] ++ (delimiter boundary ++ rest)).dropInfix? (delimiter boundary) = some ([], rest) :=
    dropInfix?_append (once_delimiter plain) fun h => nomatch List.infix_nil.1 h
  unfold form?
  rw [List.nil_append] at cut
  rw [starts, cut]
  simp only [Option.bind_eq_bind, Option.bind_some]
  cases fields? boundary rest <;> rfl

/-- No delimiter occurs in a line and what follows it, if none occurs in what follows and this is no rest of one. -/
theorem not_infix_line {marker : Bytes} (single : 13 ∉ line) (start : ¬ marker <+: rest)
    (apart : ¬ lineEnd ++ marker <:+: rest) :
    ¬ lineEnd ++ marker <:+: line ++ (lineEnd ++ rest) := by
  induction line with
  | nil =>
    intro h
    obtain h | h := List.infix_cons_iff.1 h
    · exact start (List.cons_prefix_cons.1 (List.cons_prefix_cons.1 h).2).2
    obtain h | h := List.infix_cons_iff.1 h
    · exact absurd (List.cons_prefix_cons.1 h).1 (by decide)
    · exact apart h
  | cons b line ih =>
    intro h
    obtain h | h := List.infix_cons_iff.1 h
    · exact single ((List.cons_prefix_cons.1 h).1 ▸ List.mem_cons_self)
    · exact ih (fun hb => single (List.mem_cons_of_mem b hb)) h

end SearchDomain.Http.FormData
