import SearchDomain.Aws.SecretsManager
import SearchDomain.Proofs.Text.Base64
/-!
# Lookup — what a reply to a look-up says

The answer to a look-up is a value, or that there is none, or a trouble. `Reading` lists which reply means which, and
every reply means something (`reading_received`). That there is no value is said by one cause of a refusal, and by
nothing else.
-/
namespace SearchDomain.Aws

open Text (Base64.encode Utf8.ofString)

variable {key : String} {members : List (List Char × Document)} {document v : Document} {shape : Shape} {reply : Reply}

/-! ## Members of a record that has its shape -/

theorem Document.mem_of_member? (h : (Document.object members).member? key = some v) :
    ∃ k, (k, v) ∈ members ∧ text? k = some key ∧ v ≠ .null := by
  unfold member? at h
  simp only at h
  generalize hf : (List.find? _ members.reverse).map _ = found at h
  cases found with
  | none => cases h
  | some v' =>
    obtain ⟨⟨k, v''⟩, hfind, rfl⟩ := Option.map_eq_some_iff.1 hf
    have hv : v'' = v ∧ v'' ≠ .null := by
      cases v'' <;> cases h <;> exact ⟨rfl, nofun⟩
    obtain ⟨rfl, present⟩ := hv
    exact ⟨k, List.mem_reverse.1 (List.mem_of_find?_eq_some hfind), by simpa using List.find?_some hfind, present⟩

theorem Shape.accepts_of_mem {fields : List (String × Shape)} {k : List Char}
    (accepted : acceptsMembers fields members = true) (mem : (k, v) ∈ members) (hk : Document.text? k = some key)
    (known : Table.get? key fields = some shape) : accepts shape v = true := by
  induction members with
  | nil => cases mem
  | cons member members ih =>
    obtain ⟨k', v'⟩ := member
    unfold acceptsMembers at accepted
    obtain ⟨first, rest⟩ := Bool.and_eq_true_iff.1 accepted
    obtain he | mem := List.mem_cons.1 mem
    · cases he
      simpa only [hk, known] using first
    · exact ih rest mem

theorem Shape.text_of_accepts (accepted : accepts .text v = true) (present : v ≠ .null) :
    ∃ t, v.asText? = some t := by
  cases v with
  | string spelled => exact Option.isSome_iff_exists.1 accepted
  | null => exact absurd rfl present
  | _ => cases accepted

theorem Shape.bytes_of_accepts (accepted : accepts .blob v = true) (present : v ≠ .null) :
    ∃ bytes, v = .string (Base64.encode bytes) := by
  cases v with
  | string spelled =>
    obtain ⟨bytes, h⟩ := Option.isSome_iff_exists.1 accepted
    exact ⟨bytes, congrArg _ (Text.Base64.decode_eq_some_iff.1 h)⟩
  | null => exact absurd rfl present
  | _ => cases accepted

theorem Reply.read_ok (h : reply.read shape = .ok document) :
    ∃ members, document = .object members ∧ shape.accepts document = true := by
  unfold Reply.read at h
  split at h
  · split at h
    · split at h
      · rename_i members _ accepted
        cases h
        exact ⟨members, rfl, accepted⟩
      · cases h
    · cases h
  · cases h

theorem Reply.read_error {fault : Fault} (h : reply.read shape = .error fault) :
    reply.isSuccess = true ∧ fault = .unreadable reply.status ∨
      reply.isSuccess = false ∧ fault = .refused reply.status reply.cause? := by
  unfold Reply.read at h
  split at h
  · rename_i success
    split at h
    · split at h
      · cases h
      · cases h
        exact .inl ⟨success, rfl⟩
    · cases h
      exact .inl ⟨success, rfl⟩
  · rename_i refused
    cases h
    exact .inr ⟨Bool.not_eq_true _ ▸ refused, rfl⟩

/-- What a client makes of a reply, or of none. -/
def received (shape : Shape) : Option Reply → Except Fault Document
  | none => .error .noReply
  | some reply => reply.read shape

namespace SecretsManager

variable {secret : String} {selector : Selector}

theorem text_or_none (h : reply.read (getSecretValue secret selector).output = .ok document) :
    (∃ t, textAt? "SecretString" document = some t) ∨
      textAt? "SecretString" document = none ∧ document.member? "SecretString" = none := by
  obtain ⟨members, rfl, accepted⟩ := Reply.read_ok h
  unfold textAt?
  cases hm : (Document.object members).member? "SecretString" with
  | none => exact .inr ⟨rfl, rfl⟩
  | some v =>
    obtain ⟨k, mem, hk, present⟩ := Document.mem_of_member? hm
    exact .inl (Shape.text_of_accepts (Shape.accepts_of_mem accepted mem hk rfl) present)

theorem bytes_or_none (h : reply.read (getSecretValue secret selector).output = .ok document) :
    (∃ bytes, document.member? "SecretBinary" = some (.string (Base64.encode bytes))) ∨
      document.member? "SecretBinary" = none := by
  obtain ⟨members, rfl, accepted⟩ := Reply.read_ok h
  cases hm : (Document.object members).member? "SecretBinary" with
  | none => exact .inr rfl
  | some v =>
    obtain ⟨k, mem, hk, present⟩ := Document.mem_of_member? hm
    obtain ⟨bytes, rfl⟩ := Shape.bytes_of_accepts (Shape.accepts_of_mem accepted mem hk rfl) present
    exact .inl ⟨bytes, rfl⟩

/-! ## Replies -/

/-- What a reply to a look-up, or that there was none, is read as. -/
inductive Reading (secret : String) (selector : Selector) : Option Reply → Except Error (Option SecretValue) → Prop
  /-- A text is the value. -/
  | text {reply : Reply} {document : Document} {t : String}
      (readable : reply.read (getSecretValue secret selector).output = .ok document)
      (held : textAt? "SecretString" document = some t) :
      Reading secret selector (some reply) (.ok (some ⟨(textAt? "VersionId" document).getD "", t⟩))
  /-- Of bytes, the text is the value that they are the bytes of. -/
  | bytes {reply : Reply} {document : Document} {t : String}
      (readable : reply.read (getSecretValue secret selector).output = .ok document)
      (textless : document.member? "SecretString" = none)
      (held : document.member? "SecretBinary" = some (.string (Base64.encode (Utf8.ofString t)))) :
      Reading secret selector (some reply) (.ok (some ⟨(textAt? "VersionId" document).getD "", t⟩))
  /-- A refusal with one cause says that there is no value. -/
  | absent {reply : Reply} (refused : reply.isSuccess = false)
      (cause : reply.cause? = some "ResourceNotFoundException") : Reading secret selector (some reply) (.ok none)
  | refused {reply : Reply} (refused : reply.isSuccess = false)
      (cause : reply.cause? ≠ some "ResourceNotFoundException") :
      Reading secret selector (some reply)
        (.error (.secretAccess secret (Fault.refused reply.status reply.cause?).message))
  | silent : Reading secret selector none (.error (.secretAccess secret Fault.noReply.message))
  | unreadable {reply : Reply} (success : reply.isSuccess = true)
      (unreadable : ∀ document, reply.read (getSecretValue secret selector).output ≠ .ok document) :
      Reading secret selector (some reply) (.error (.secretAccess secret (Fault.unreadable reply.status).message))
  | empty {reply : Reply} {document : Document}
      (readable : reply.read (getSecretValue secret selector).output = .ok document)
      (textless : document.member? "SecretString" = none) (byteless : document.member? "SecretBinary" = none) :
      Reading secret selector (some reply) (.error (.secretAccess secret Fault.noValue.message))
  /-- Bytes that are those of no text are no value. -/
  | undecodable {reply : Reply} {document : Document} {bytes : Text.Utf8.Bytes} {fault : Text.Utf8.Fault}
      (readable : reply.read (getSecretValue secret selector).output = .ok document)
      (textless : document.member? "SecretString" = none)
      (held : document.member? "SecretBinary" = some (.string (Base64.encode bytes)))
      (foreign : ∀ t, bytes ≠ Utf8.ofString t) :
      Reading secret selector (some reply) (.error (.secretAccess secret (Fault.undecodable fault).message))

theorem found_ok (document : Document) :
    found (.ok document) = (valueText document).map fun t => some ⟨(textAt? "VersionId" document).getD "", t⟩ := by
  unfold found secretValue
  simp only
  cases valueText document <;> rfl

theorem reading_of_ok (hr : reply.read (getSecretValue secret selector).output = .ok document) :
    Reading secret selector (some reply) ((found (.ok document)).mapError (error secret)) := by
  rw [found_ok]
  obtain ⟨t, ht⟩ | ⟨ht, textless⟩ := text_or_none hr
  · have hv : valueText document = .ok t := by
      unfold valueText
      rw [ht]
    rw [hv]
    exact .text hr ht
  obtain ⟨bytes, held⟩ | byteless := bytes_or_none hr
  · have hv : valueText document = (Text.Utf8.decode bytes).mapError .undecodable := by
      have hb : (document.member? "SecretBinary").bind Document.asBytes? = some bytes := by
        rw [held]
        exact Text.Base64.decode_encode bytes
      unfold valueText
      rw [ht, hb]
    rw [hv]
    cases hd : Text.Utf8.decode bytes with
    | ok t =>
      obtain rfl := Text.Utf8.decode_ok_iff.1 hd
      exact .bytes hr textless held
    | error fault =>
      refine .undecodable hr textless held fun t ht => ?_
      rw [ht, Text.Utf8.decode_ofString] at hd
      cases hd
  · have hv : valueText document = .error .noValue := by
      unfold valueText
      rw [ht, byteless]
      rfl
    rw [hv]
    exact .empty hr textless byteless

/-- **Every reply is read as something**, and this is what a client answers. -/
theorem reading_received (secret : String) (selector : Selector) (reply : Option Reply) :
    Reading secret selector reply
      ((found (received (getSecretValue secret selector).output reply)).mapError (error secret)) := by
  cases reply with
  | none => exact .silent
  | some reply =>
    show Reading secret selector (some reply)
      ((found (reply.read (getSecretValue secret selector).output)).mapError (error secret))
    cases hr : reply.read (getSecretValue secret selector).output with
    | ok document => exact reading_of_ok hr
    | error fault =>
      obtain ⟨success, rfl⟩ | ⟨refused, rfl⟩ := Reply.read_error hr
      · exact .unreadable success fun document h => nomatch hr.symm.trans h
      · by_cases cause : reply.cause? = some notFound
        · unfold found
          simp only [if_pos cause]
          exact .absent refused cause
        · unfold found
          simp only [if_neg cause]
          exact .refused refused cause

end SecretsManager
end SearchDomain.Aws
