import SearchDomain.Payload.Security
import SearchDomain.Proofs.Json.Values
/-!
# Payload — a filled template is a document

The text around the hole of each template is the rest of a JSON object, and what fills the hole is a literal. So the
document is always there, with the text as one of its members, whatever its characters are.
-/
namespace SearchDomain.Payload

open Json (Blank Literal ItemsText MembersText ObjectText ArrayText Reads writeString separator)

variable {s : String} {cs b : List Char} {depth : Nat} {x : Json}

/-- The document of a template with some text in its hole. -/
def Template.around (t : Template) (hole : String) : Except Error Json :=
  (Json.ofText (t.before ++ hole ++ t.after)).mapError .serialization

theorem Template.document_eq_around (t : Template) (s : String) :
    t.document s = t.around (String.ofList (writeString s)) := rfl

theorem Template.around_of_reads {t : Template} {hole : List Char}
    (spelled : t.before.toList ++ (hole ++ t.after.toList) = cs ++ b) (blank : Blank b)
    (reads : Reads (Json.value Json.maxDepth) cs x) : t.around (String.ofList hole) = .ok x := by
  have htext : (t.before ++ String.ofList hole ++ t.after).toList = cs ++ b := by
    rw [String.toList_append, String.toList_append, String.toList_ofList, List.append_assoc, spelled]
  have hread : Json.ofText (t.before ++ String.ofList hole ++ t.after) = .ok x :=
    Json.readAll_eq_ok_iff.2 ⟨b, by rw [htext, reads b blank.delimited_end], Json.skipBlanks_eq_nil blank⟩
  unfold around
  rw [hread]
  rfl

/-! ## What the templates are made of -/

theorem reads_string (s : String) (depth : Nat) : Reads (Json.value depth) (writeString s) (.string s) :=
  (Json.literal_writeString s).reads_value

theorem reads_strings (ss : List String) (h : ArrayText (ss.map writeString) cs) (depth : Nat) :
    Reads (Json.value (depth + 1)) cs (.strings ss) := by
  refine Json.reads_array h ?_ ?_
  · intro item hitem
    obtain ⟨s, -, rfl⟩ := List.mem_map.1 hitem
    exact ⟨'"', _, rfl, by decide, by decide⟩
  · rw [List.forall₂_map_left_iff, List.forall₂_map_right_iff, List.forall₂_same]
    exact fun s _ => reads_string s depth

theorem reads_empty_array (depth : Nat) : Reads (Json.value (depth + 1)) ['[', ']'] (.array []) :=
  reads_strings [] (.brackets (.close Json.blank_nil)) depth

theorem reads_empty_object (depth : Nat) : Reads (Json.value (depth + 1)) ['{', '}'] (.ofMembers []) :=
  Json.reads_object (.brackets (.close Json.blank_nil)) .nil

/-- A member on a line of its own. -/
theorem membersText_line (first : Bool) (key : String) (value : List Char) {members : List (String × List Char)}
    (rest : MembersText false members cs) : MembersText first ((key, value) :: members)
      (separator first ++ ('\n' :: ' ' :: ' ' :: (writeString key ++ (':' :: ' ' :: (value ++ cs))))) :=
  .member (b := []) (k := ['\n', ' ', ' ']) (g := []) (w := [' ']) (by decide) (by decide)
    (Json.literal_writeString key) (by decide) (by decide) rest

theorem membersText_lastLine : MembersText false [] ['\n', '}'] := .close (b := ['\n']) (by decide)

/-! ## The mapping of the pipeline's role -/

theorem mappingTemplate_around {hole : List Char} (begins : Json.Begins hole)
    (reads : ∀ depth, Reads (Json.value depth) hole x) : mappingTemplate.around (String.ofList hole) =
      .ok (.ofMembers [("backend_roles", .array [x]), ("hosts", .array []), ("users", .array [])]) := by
  have roles : ArrayText [hole] ('[' :: (hole ++ [']'])) :=
    .brackets (.item (b := []) (i := []) (by decide) (by decide) (.close Json.blank_nil))
  have read : Reads (Json.value 126) ('[' :: (hole ++ [']'])) (.array [x]) :=
    Json.reads_array roles (fun item hitem => List.mem_singleton.1 hitem ▸ begins) (.cons (reads 125) .nil)
  have object := ObjectText.brackets (membersText_line true "backend_roles" ('[' :: (hole ++ [']']))
    (membersText_line false "hosts" ['[', ']']
      (membersText_line false "users" ['[', ']'] membersText_lastLine)))
  have whole : Reads (Json.value Json.maxDepth) _
      (.ofMembers [("backend_roles", .array [x]), ("hosts", .array []), ("users", .array [])]) :=
        Json.reads_object object
    (.cons ⟨rfl, read⟩ (.cons ⟨rfl, reads_empty_array 125⟩ (.cons ⟨rfl, reads_empty_array 125⟩ .nil)))
  refine Template.around_of_reads (b := ['\n']) ?_ (by decide) whole
  simp only [List.append_assoc, List.cons_append]
  rfl

def mappingDocument (role : String) : Json :=
  .ofMembers [("backend_roles", .strings [role]), ("hosts", .array []), ("users", .array [])]

/-- **A role can always be mapped**, whatever it is called. -/
theorem pipelineRoleMapping_eq (role : String) : pipelineRoleMapping role = .ok (mappingDocument role) := by
  unfold pipelineRoleMapping
  rw [Template.document_eq_around]
  exact mappingTemplate_around ⟨'"', _, rfl, by decide, by decide⟩ (reads_string role)

/-! ## Internal users -/

/-- What the cluster lets a user do. -/
def InternalUser.roles : InternalUser → List String
  | .admin => ["all_access", "security_manager"]
  | .readOnly => ["readall", "opensearch_dashboards_read_only"]

/-- What is said of a user, with a value for the password. -/
def InternalUser.described (user : InternalUser) (password : Json) : Json :=
  .ofMembers [
    ("password", password),
    ("opendistro_security_roles", .strings user.roles),
    ("backend_roles", .array []),
    ("attributes", .ofMembers [])]

def InternalUser.filled (user : InternalUser) (password : String) : Json := user.described (.string password)

theorem arrayText_pair (s t : String) :
    ArrayText [writeString s, writeString t] ('[' :: (writeString s ++ (',' :: ' ' :: (writeString t ++ [']'])))) :=
  .brackets (.item (b := []) (i := []) (by decide) (by decide)
    (.item (b := []) (i := [' ']) (by decide) (by decide) (.close Json.blank_nil)))

theorem InternalUser.template_around (user : InternalUser) {hole : List Char}
    (reads : ∀ depth, Reads (Json.value depth) hole x) :
    user.template.around (String.ofList hole) = .ok (user.described x) := by
  obtain ⟨r, r', hroles⟩ : ∃ r r', user.roles = [r, r'] := by cases user <;> exact ⟨_, _, rfl⟩
  have roles : ArrayText (user.roles.map writeString)
      ('[' :: (writeString r ++ (',' :: ' ' :: (writeString r' ++ [']'])))) := by
    rw [hroles]
    exact arrayText_pair r r'
  have object := ObjectText.brackets (membersText_line true "password" hole
    (membersText_line false "opendistro_security_roles"
      ('[' :: (writeString r ++ (',' :: ' ' :: (writeString r' ++ [']']))))
      (membersText_line false "backend_roles" ['[', ']']
        (membersText_line false "attributes" ['{', '}'] membersText_lastLine))))
  have whole : Reads (Json.value Json.maxDepth) _ (user.described x) := Json.reads_object object
    (.cons ⟨rfl, reads 126⟩ (.cons ⟨rfl, reads_strings user.roles roles 125⟩
      (.cons ⟨rfl, reads_empty_array 125⟩ (.cons ⟨rfl, reads_empty_object 125⟩ .nil))))
  refine Template.around_of_reads (b := ['\n']) ?_ (by decide) whole
  have before : user.template.before.toList = '{' :: '\n' :: ' ' :: ' ' :: (writeString "password" ++ [':', ' ']) := by
    cases user <;> rfl
  have after : user.template.after.toList = ',' :: '\n' :: ' ' :: ' ' :: (writeString "opendistro_security_roles" ++
      (':' :: ' ' :: '[' :: (writeString r ++ (',' :: ' ' :: (writeString r' ++
        ']' :: ",\n  \"backend_roles\": [],\n  \"attributes\": \x7b\x7d\n\x7d\n".toList))))) := by
    cases user <;> cases hroles <;> decide +kernel
  rw [before, after]
  simp only [List.append_assoc, List.cons_append]
  rfl

/-- **A user can always be described**, whatever its password is, which is the password in the document. -/
theorem InternalUser.document_eq (user : InternalUser) (password : String) :
    user.document password = .ok (user.filled password) := by
  unfold document
  rw [Template.document_eq_around]
  exact user.template_around (reads_string password)

/-! ## Where a text stands -/

/-- The document of a template in which nothing is filled in yet. -/
def Template.blank (t : Template) : Except Error Json := t.around "null"

/-- Documents that are those of a template with a text filled in: it stands under the key, in its form, and beside it
there are the other members of the template, whatever the text is. -/
structure FillsIn (t : Template) (document : String → Except Error Json) (key : String) (form : Json → Json)
    (others : Table Json) : Prop where
  own : Table.get? key others = none
  template : t.blank = .ok (.object (Table.set key (form .null) others))
  filled : ∀ s, document s = .ok (.object (Table.set key (form (.string s)) others))

theorem reads_null (depth : Nat) : Reads (Json.value depth) ['n', 'u', 'l', 'l'] .null := fun rest _ => by
  cases depth <;> rfl

theorem InternalUser.described_eq (user : InternalUser) (password : Json) : user.described password =
    .object (Table.set "password" password
      [("attributes", .object []), ("backend_roles", .array []),
        ("opendistro_security_roles", .strings user.roles)]) := by
  simp only [described, Json.ofMembers, Table.ofList, List.foldl, Table.set, String.reduceEq, String.reduceLT, if_true,
    if_false]

/-- **A text does not leave its place.** Whatever the password of a user is, it is the value of that member and nothing
else, and the roles and the other members are those of the template; and so for the name of a role that is mapped. -/
theorem filled_in_place :
    (∀ user : InternalUser, FillsIn user.template user.document "password" (fun password => password)
      [("attributes", .object []), ("backend_roles", .array []), ("opendistro_security_roles", .strings user.roles)]) ∧
    FillsIn mappingTemplate pipelineRoleMapping "backend_roles" (fun role => .array [role])
      [("hosts", .array []), ("users", .array [])] := by
  have mapping : ∀ role : Json,
      Json.ofMembers [("backend_roles", .array [role]), ("hosts", .array []), ("users", .array [])] =
      .object (Table.set "backend_roles" (.array [role]) [("hosts", .array []), ("users", .array [])]) := fun role => by
    simp only [Json.ofMembers, Table.ofList, List.foldl, Table.set, String.reduceEq, String.reduceLT, if_true, if_false]
  refine ⟨fun user => ⟨rfl, ?_, fun s => ?_⟩, rfl, ?_, fun s => ?_⟩
  · rw [← user.described_eq]
    exact user.template_around reads_null
  · rw [← user.described_eq]
    exact user.document_eq s
  · rw [← mapping]
    exact mappingTemplate_around ⟨'n', _, rfl, by decide, by decide⟩ reads_null
  · rw [← mapping]
    exact pipelineRoleMapping_eq s

end SearchDomain.Payload
