import SearchDomain.Http.Multipart
import SearchDomain.Proofs.Http.FormData
import SearchDomain.Text.Hex
/-!
# Multipart — a file arrives as it was sent

A file is sent as a form with one field. The delimiter begins with a line end, and the boundary has none, so no
delimiter begins within the content and ends behind it: whoever reads the form finds the content unchanged as long as
the boundary does not occur in it (`file_arrives`).
-/
namespace SearchDomain.Http.Multipart

open FormData
open Text.Utf8 (Bytes ofString)

variable {boundary fileName : String} {content : Bytes}

/-- A boundary as it is drawn for a form: dashes, and 32 hexadecimal digits. -/
def IsBoundary (boundary : String) : Prop :=
  ∃ random : String, boundary = boundaryDashes ++ random ∧ random.toList.length = 32 ∧
    ∀ c ∈ random.toList, (Text.Hex.value? c).isSome = true

/-- A name that can stand in quotes on a line. -/
def IsFileName (name : String) : Prop := '"' ∉ name.toList ∧ '\r' ∉ name.toList ∧ '\n' ∉ name.toList

theorem IsBoundary.apart (h : IsBoundary boundary) {c : Char} (other : c ≠ '-') (plain : Text.Hex.value? c = none) :
    c ∉ boundary.toList := by
  obtain ⟨random, rfl, -, digits⟩ := h
  have dash : boundaryDashes.toList.all (· == '-') = true := by decide
  intro hc
  rw [String.toList_append] at hc
  obtain hc | hc := List.mem_append.1 hc
  · exact other (eq_of_beq (List.all_eq_true.1 dash c hc))
  · have digit := digits c hc
    rw [plain] at digit
    cases digit

/-! ## The body in pieces -/

/-- What the header of the part says of its field. -/
def disposition (fileName : String) : String := "form-data; name=\"file\"; filename=\"" ++ fileName ++ "\""

def dispositionLine (fileName : String) : Bytes := ofString ("Content-Disposition" ++ ": " ++ disposition fileName)

def typeLine : Bytes := ofString ("Content-Type" ++ ": " ++ "application/ndjson")

/-- The part between the delimiters. -/
def partText (fileName : String) (content : Bytes) : Bytes :=
  dispositionLine fileName ++ (lineEnd ++ (typeLine ++ (lineEnd ++ (lineEnd ++ content))))

theorem write_eq (boundary fileName : String) (content : Bytes) :
    lineEnd ++ write boundary fileName content =
      delimiter boundary ++ (lineEnd ++ (partText fileName content ++
        (delimiter boundary ++ (dashes ++ lineEnd)))) := by
  have ends : ofString "\r\n" = lineEnd := by decide
  have opens : ofString "--" = dashes := by decide
  have closes : ofString "\r\n--" = lineEnd ++ dashes := by decide
  have closed : ofString "--\r\n" = dashes ++ lineEnd := by decide
  have quote : ofString "\"\r\n" = ofString "\"" ++ lineEnd := by decide
  have named : ofString "Content-Disposition: form-data; name=\"file\"; filename=\"" =
      ofString "Content-Disposition" ++ (ofString ": " ++ ofString "form-data; name=\"file\"; filename=\"") := by decide
  have typed : ofString "Content-Type: application/ndjson\r\n" =
      ofString "Content-Type" ++ (ofString ": " ++ (ofString "application/ndjson" ++ lineEnd)) := by decide
  unfold write partHeaders partText dispositionLine disposition typeLine delimiter
  simp only [Text.Utf8.ofString_append, ends, opens, closes, closed, quote, named, typed, List.append_assoc]

/-! ## The field -/

theorem single_dispositionLine (plain : IsFileName fileName) : 13 ∉ dispositionLine fileName := by
  intro h
  have fixed : '\r' ∉
      "Content-Disposition".toList ++ ": ".toList ++ "form-data; name=\"file\"; filename=\"".toList := by decide
  have close : '\r' ∉ "\"".toList := by decide
  have hc := Text.Utf8.mem_of_mem_ofString (c := '\r') (by decide) h
  unfold disposition at hc
  rw [String.toList_append, String.toList_append, String.toList_append, String.toList_append] at hc
  simp only [List.mem_append] at hc fixed
  obtain hc | ((hc | hc) | hc) := hc
  · exact fixed (.inl hc)
  · exact fixed (.inr hc)
  · exact plain.2.1 hc
  · exact close hc

theorem dispositionLine_ne_nil (fileName : String) : dispositionLine fileName ≠ [] := by
  have name : ofString "Content-Disposition" ≠ [] := by decide
  unfold dispositionLine
  rw [Text.Utf8.ofString_append, Text.Utf8.ofString_append]
  exact List.append_ne_nil_of_left_ne_nil (List.append_ne_nil_of_left_ne_nil name _) _

theorem single_typeLine : 13 ∉ typeLine := by decide

/-- What is found in the headers of the part. -/
def headers (fileName : String) : List Header :=
  [("content-disposition", disposition fileName), ("content-type", "application/ndjson")]

theorem part?_partText (plain : IsFileName fileName) (content : Bytes) :
    part? (partText fileName content) = some (headers fileName, content) := by
  have colon : ':' ∉ "Content-Disposition".toList := by decide
  have colon' : ':' ∉ "Content-Type".toList := by decide
  have lower : Header.lowerName "Content-Disposition" = "content-disposition" := by decide
  have lower' : Header.lowerName "Content-Type" = "content-type" := by decide
  have value : (disposition fileName).toList.dropWhile (· == ' ') = (disposition fileName).toList := by
    unfold disposition
    rw [String.toList_append, String.toList_append]
    rfl
  have value' : "application/ndjson".toList.dropWhile (· == ' ') = "application/ndjson".toList := by decide
  have named := header?_eq colon (disposition fileName)
  have typed := header?_eq colon' "application/ndjson"
  rw [lower, value, String.ofList_toList] at named
  rw [lower', value', String.ofList_toList] at typed
  unfold partText
  rw [part?_line (dispositionLine_ne_nil fileName) (single_dispositionLine plain) named,
    part?_line (by decide) single_typeLine typed, part?_lineEnd]
  rfl

theorem parametersOf?_disposition (plain : IsFileName fileName) :
    parametersOf? "form-data" (disposition fileName) = some [("name", "file"), ("filename", fileName)] := by
  have single : ';' ∉ "form-data".toList := by decide
  have named : ' ' ∉ "name".toList ∧ '=' ∉ "name".toList := by decide
  have named' : ' ' ∉ "filename".toList ∧ '=' ∉ "filename".toList := by decide
  have closed : '"' ∉ "file".toList := by decide
  have closed' : '"' ∉ fileName.toList := plain.1
  have spelled : (disposition fileName).toList = "form-data".toList ++ ';' :: ' ' :: ("name".toList ++ '=' :: '"' ::
      ("file".toList ++ '"' :: ';' :: ' ' :: ("filename".toList ++ '=' :: '"' :: (fileName.toList ++ '"' :: [])))) := by
    unfold disposition
    rw [String.toList_append, String.toList_append]
    rfl
  rw [parametersOf?_eq single spelled, parameters?_quoted named closed, parameters?_quoted named' closed',
    parameters?_nil]
  rfl

theorem field?_headers (plain : IsFileName fileName) (content : Bytes) : field? (headers fileName, content) =
    some { name := "file", fileName := some fileName, contentType := some "application/ndjson", content } := by
  have found : (headers fileName).lookup "content-disposition" = some (disposition fileName) := rfl
  unfold field?
  simp only [found, Option.bind_eq_bind, Option.bind_some, parametersOf?_disposition plain]
  rfl

/-! ## No delimiter within the part -/

theorem apart_partText (plain : IsFileName fileName) (apart : ¬ ofString boundary <:+: content) :
    ¬ delimiter boundary <:+: partText fileName content := by
  have marker : ∀ {bytes : Bytes}, dashes ++ ofString boundary <:+: bytes → ofString boundary <:+: bytes := fun h =>
    (List.suffix_append _ _).isInfix.trans h
  have first : ∀ {bytes : Bytes} {b : UInt8}, b ≠ 45 → ¬ dashes ++ ofString boundary <+: b :: bytes := fun other h =>
    other (List.cons_prefix_cons.1 h).1.symm
  refine not_infix_line (single_dispositionLine plain) (first (by decide)) ?_
  refine not_infix_line single_typeLine (first (by decide)) ?_
  refine not_infix_line (List.not_mem_nil : 13 ∉ ([] : Bytes)) (fun h => apart (marker h.isInfix)) fun h => ?_
  exact apart (marker ((List.suffix_append _ _).isInfix.trans h))

/-! ## The form -/

theorem boundary?_contentType (drawn : IsBoundary boundary) : boundary? (contentType boundary) = some boundary := by
  have single : ';' ∉ "multipart/form-data".toList := by decide
  have named : ' ' ∉ "boundary".toList ∧ '=' ∉ "boundary".toList := by decide
  have last : ';' ∉ boundary.toList := drawn.apart (by decide) (by decide)
  have quote : '"' ∉ boundary.toList := drawn.apart (by decide) (by decide)
  obtain ⟨c, cs, hcs⟩ : ∃ c cs, boundary.toList = c :: cs := by
    obtain ⟨random, rfl, -⟩ := drawn
    exact ⟨_, _, String.toList_append⟩
  have spelled : (contentType boundary).toList = "multipart/form-data".toList ++ ';' :: ' ' :: ("boundary".toList ++
      '=' :: c :: cs) := by
    unfold contentType
    rw [String.toList_append, hcs]
    rfl
  rw [hcs] at last quote
  unfold boundary?
  rw [parametersOf?_eq single spelled, parameters?_plain named (List.ne_of_not_mem_cons quote).symm last, ← hcs,
    String.ofList_toList]
  rfl

theorem form?_write (ends : '\r' ∉ boundary.toList) (plain : IsFileName fileName)
    (apart : ¬ ofString boundary <:+: content) :
    form? boundary (write boundary fileName content) = some {
      preamble := []
      fields := [{ name := "file", fileName := some fileName, contentType := some "application/ndjson", content }]
      epilogue := [] } := by
  rw [form?_eq ends (write_eq boundary fileName content),
    fields?_part ends (apart_partText plain apart) (part?_partText plain content) (field?_headers plain content),
    fields?_closing]
  rfl

/-- **A file arrives as it was sent**, whatever its bytes are: the boundary is told with the type of the content, and
under it the body is read as a form of one field that holds the file, with nothing before and nothing after it. -/
theorem file_arrives (drawn : IsBoundary boundary) (plain : IsFileName fileName)
    (apart : ¬ ofString boundary <:+: content) :
    boundary? (contentType boundary) = some boundary ∧
      form? boundary (write boundary fileName content) = some {
        preamble := []
        fields := [{ name := "file", fileName := some fileName, contentType := some "application/ndjson", content }]
        epilogue := [] } :=
  ⟨boundary?_contentType drawn, form?_write (drawn.apart (by decide) (by decide)) plain apart⟩

/-- A file that looks like the start of a delimiter and ends like one, with a name full of marks. -/
theorem file_arrives_dashed :
    let boundary := "------------------------0123456789abcdef0123456789abcdef"
    let fileName := "a;b=\\ü.ndjson"
    let content := ofString "--------------------------0123\r\n--\r"
    IsBoundary boundary ∧ IsFileName fileName ∧ ¬ ofString boundary <:+: content ∧
      boundary? (contentType boundary) = some boundary ∧
      form? boundary (write boundary fileName content) = some {
        preamble := []
        fields := [{ name := "file", fileName := some fileName, contentType := some "application/ndjson", content }]
        epilogue := [] } := by
  intro boundary fileName content
  have drawn : IsBoundary boundary := ⟨"0123456789abcdef0123456789abcdef", by decide, by decide,
    List.all_eq_true.1 (by decide)⟩
  have plain : IsFileName fileName := by
    unfold IsFileName
    decide
  have apart : ¬ ofString boundary <:+: content := by decide
  exact ⟨drawn, plain, apart, file_arrives drawn plain apart⟩

end SearchDomain.Http.Multipart
