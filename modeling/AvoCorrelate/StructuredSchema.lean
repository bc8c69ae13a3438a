import AvoCorrelate.Canonical
import AvoCorrelate.Lib.Dicts
import Mathlib.Data.List.Forall2
import Mathlib.Logic.Relation
/-!
# Strict output schemas

A schema of pydantic is made strict for the provider: every object is closed, every property
is required, and no default is left. The compiler walks the schema by its keywords and changes
it in place, and a reference is checked on the root as it is then. It does not walk
`prefixItems`, and it may drop what a reference leads to. `strict_closure_iff` says for which
schemas the compiled one is strict all the same.
-/
open AvoLib

namespace AvoCorrelate.StructuredSchema

open Canonical (Json Canon)
open Dict (assign update)

abbrev Members := List (String × Json)

inductive StructuredSchemaError
  | schema (message : String)
  deriving DecidableEq

/-! ## The checks of a node -/

def jsonTypes : List String := ["array", "boolean", "integer", "null", "number", "object", "string"]

def typeName (schema : Members) : Option String :=
  match schema.lookup "type" with
  | some (.string name) => some name
  | _ => none

def propertiesOf (schema : Members) : Option Members :=
  match schema.lookup "properties" with
  | some (.object properties) => some properties
  | _ => none

def checkType (path : String) (schema : Members) : Except StructuredSchemaError Unit :=
  match schema.lookup "type" with
  | none => .ok ()
  | some (.string name) => require (name ∈ jsonTypes) (.schema ("invalid type at " ++ path))
  | some _ => .error (.schema ("invalid type at " ++ path))

/-- A segment of a pointer, without its escapes. -/
def unescape (segment : List Char) : String :=
  String.ofList (Text.replace ['~', '0'] ['~'] (Text.replace ['~', '1'] ['/'] segment))

/-- The walk of `_validate_ref` from a value, by the keys that are left. -/
def follow (path : String) : Json → List String → Except StructuredSchemaError Unit
  | .object _, [] => .ok ()
  | _, [] => .error (.schema ("$ref target at " ++ path ++ " is not a schema object"))
  | .object members, key :: keys =>
    match members.lookup key with
    | some value => follow path value keys
    | none => .error (.schema ("$ref target does not exist at " ++ path))
  | _, _ :: _ => .error (.schema ("$ref target does not exist at " ++ path))

def validateRef (root : Json) (path : String) : Json → Except StructuredSchemaError Unit
  | .string ref => do
    require (['#', '/'] <+: ref.toList) (.schema ("external $ref is unsupported at " ++ path))
    let segments := (ref.toList.drop 2).splitOn '/'
    require (segments.head? = some ['$', 'd', 'e', 'f', 's'] ∧ 2 ≤ segments.length)
      (.schema ("unsupported local $ref at " ++ path))
    follow path root (segments.map unescape)
  | _ => .error (.schema ("$ref at " ++ path ++ " must be a string"))

def checkRef (root : Json) (path : String) (schema : Members) : Except StructuredSchemaError Unit :=
  match schema.lookup "$ref" with
  | none => .ok ()
  | some ref => validateRef root (path ++ ".$ref") ref

def checkProperties (path : String) (schema : Members) : Except StructuredSchemaError Unit :=
  match schema.lookup "properties" with
  | none => .ok ()
  | some (.object _) =>
    require (typeName schema = none ∨ typeName schema = some "object")
      (.schema ("properties at " ++ path ++ " require an object schema"))
  | some _ => .error (.schema ("properties at " ++ path ++ " must be an object"))

/-- The names that `required` lists, if they are all strings. -/
def namesOf (path : String) : List Json → Except StructuredSchemaError (List String)
  | [] => .ok []
  | .string name :: rest => do return name :: (← namesOf path rest)
  | _ :: _ => .error (.schema ("required at " ++ path ++ " must be a list of property names"))

def checkRequired (path : String) (schema : Members) : Except StructuredSchemaError Unit :=
  match schema.lookup "required" with
  | none => .ok ()
  | some (.array items) => do
    let required ← namesOf path items
    require ((propertiesOf schema).isSome ∨ required = [])
      (.schema ("required at " ++ path ++ " references an absent properties object"))
    require required.Nodup (.schema ("required at " ++ path ++ " contains duplicate names"))
    require (∀ properties ∈ propertiesOf schema, ∀ name ∈ required, name ∈ properties.map Prod.fst)
      (.schema ("required at " ++ path ++ " references an undeclared property"))
  | some _ => .error (.schema ("required at " ++ path ++ " must be a list of property names"))

def checkAdditional (path : String) (schema : Members) : Except StructuredSchemaError Unit :=
  match schema.lookup "additionalProperties" with
  | none => .ok ()
  | some (.bool false) =>
    require (typeName schema = none ∨ typeName schema = some "object")
      (.schema ("additionalProperties at " ++ path ++ " require an object schema"))
  | some _ => .error (.schema ("schema-valued or open additionalProperties are unsupported at " ++ path))

def checkOpen (path : String) (schema : Members) : Except StructuredSchemaError Unit := do
  require ((schema.lookup "patternProperties").isNone)
    (.schema ("unsupported open-object keyword patternProperties at " ++ path))
  require ((schema.lookup "unevaluatedProperties").isNone)
    (.schema ("unsupported open-object keyword unevaluatedProperties at " ++ path))

/-! ## The compiler -/

/-- What is assigned to a schema that is declared an object. -/
def close (schema : Members) : Members :=
  if typeName schema = some "object" ∨ (propertiesOf schema).isSome then
    let closed := assign "additionalProperties" (.bool false) schema
    match propertiesOf schema with
    | some properties => assign "required" (.array (properties.map fun property => .string property.1)) closed
    | none => if (schema.lookup "required").isSome then assign "required" (.array []) closed else closed
  else schema

/-- What stands under a keyword: one schema, schemas by name, or a list of them. -/
inductive Shape
  | one
  | table
  | several
  deriving DecidableEq

theorem sizeOf_lookup (key : String) (members : Members) : sizeOf (members.lookup key) ≤ sizeOf members := by
  induction members with
  | nil => simp
  | cons member members ih =>
    obtain ⟨k, value⟩ := member
    rw [List.lookup_cons]
    split
    · simp only [Option.some.sizeOf_spec, List.cons.sizeOf_spec, Prod.mk.sizeOf_spec]
      omega
    · simp only [List.cons.sizeOf_spec]
      omega

mutual
/-- `_compile_node`. `root` gives the root with a value in this node's place. A node of a tree is
met once, so the identities that were seen never stop the walk. -/
def compileNode (root : Json → Json) (path : String) : Json → Except StructuredSchemaError Json
  | .object members => do
    let schema := members.filter (·.1 ≠ "default")
    checkType path schema
    checkRef (root (.object schema)) path schema
    checkProperties path schema
    let schema ← compileAt root path "properties" .table schema (members.lookup "properties")
    checkRequired path schema
    checkAdditional path schema
    let schema := close schema
    let schema ← compileAt root path "items" .one schema (members.lookup "items")
    let schema ← compileAt root path "$defs" .table schema (members.lookup "$defs")
    let schema ← compileAt root path "anyOf" .several schema (members.lookup "anyOf")
    let schema ← compileAt root path "oneOf" .several schema (members.lookup "oneOf")
    let schema ← compileAt root path "allOf" .several schema (members.lookup "allOf")
    checkOpen path schema
    return .object schema
  | _ => .error (.schema ("schema node at " ++ path ++ " must be an object"))
  termination_by node => (sizeOf node, 0)
  decreasing_by
    all_goals
      refine Prod.Lex.left _ _ (Nat.lt_of_le_of_lt (sizeOf_lookup _ members) ?_)
      simp

def compileAt (root : Json → Json) (path keyword : String) (shape : Shape) (schema : Members) :
    Option Json → Except StructuredSchemaError Members
  | none => .ok schema
  | some value => do
    let value ← compileUnder (fun value => root (.object (update keyword value schema))) path keyword shape value
    return update keyword value schema
  termination_by value => (sizeOf value, 0)

def compileUnder (root : Json → Json) (path keyword : String) : Shape → Json → Except StructuredSchemaError Json
  | .one, value => compileNode root (path ++ "." ++ keyword) value
  | .table, .object entries => do
    return .object (← compileEntries (fun entries => root (.object entries)) (path ++ "." ++ keyword) [] entries)
  | .table, _ => .error (.schema (keyword ++ " at " ++ path ++ " must be an object"))
  | .several, .array (first :: rest) => do
    return .array (← compileAlternatives (fun items => root (.array items)) (path ++ "." ++ keyword) [] (first :: rest))
  | .several, _ => .error (.schema (keyword ++ " at " ++ path ++ " must be a non-empty list"))
  termination_by _ value => (sizeOf value, 1)

/-- The entries after those of `done`, which are compiled. -/
def compileEntries (root : Members → Json) (path : String) (done : Members) :
    Members → Except StructuredSchemaError Members
  | [] => .ok done
  | (name, child) :: rest => do
    let child ← compileNode (fun child => root (done ++ (name, child) :: rest)) (path ++ "." ++ name) child
    compileEntries root path (done ++ [(name, child)]) rest
  termination_by entries => (sizeOf entries, 0)

def compileAlternatives (root : List Json → Json) (path : String) (done : List Json) :
    List Json → Except StructuredSchemaError (List Json)
  | [] => .ok done
  | child :: rest => do
    let child ← compileNode (fun child => root (done ++ child :: rest)) (path ++ "[" ++ toString done.length ++ "]") child
    compileAlternatives root path (done ++ [child]) rest
  termination_by items => (sizeOf items, 0)
end

def requireObjectRoot : Json → Except StructuredSchemaError Unit
  | .object members =>
    require (typeName members = some "object") (.schema "strict output schema root must have type 'object'")
  | _ => .error (.schema "strict output schema root must have type 'object'")

structure CompiledStructuredSchema where
  sourceSchema : Json
  wireSchema : Json
  sourceDigest : String
  wireDigest : String

/-- `compile_strict_output_schema`, of what `model_json_schema()` gave. -/
def compileStrictOutputSchema (C : Canon) (sha : List UInt8 → List UInt8) (generated : Json) :
    Except StructuredSchemaError CompiledStructuredSchema :=
  match generated with
  | .object _ => do
    let sourceDigest ← (Canonical.canonicalDigest C sha generated).mapError fun
      | .canonicalization message => .schema ("invalid source schema: " ++ message)
    requireObjectRoot generated
    let wireSchema ← compileNode id "$" generated
    let wireDigest ← (Canonical.canonicalDigest C sha wireSchema).mapError fun
      | .canonicalization message => .schema ("invalid compiled schema: " ++ message)
    return ⟨generated, wireSchema, sourceDigest, wireDigest⟩
  | _ => .error (.schema "model_json_schema() must return a JSON object")

/-! ## Subschemas -/

def member (key : String) : Json → Option Json
  | .object members => members.lookup key
  | _ => none

/-- What the compiler takes to stand under a keyword. -/
def shapeOf (key : String) : Option Shape :=
  if key ∈ ["properties", "$defs"] then some .table
  else if key = "items" then some .one
  else if key ∈ ["anyOf", "oneOf", "allOf"] then some .several
  else none

def parts : Shape → Json → List Json
  | .one, value => [value]
  | .table, .object entries => entries.map Prod.snd
  | .several, .array items => items
  | _, _ => []

/-- A subschema under a keyword that the compiler follows. -/
def Follows (node child : Json) : Prop :=
  ∃ key shape value, shapeOf key = some shape ∧ member key node = some value ∧ child ∈ parts shape value

/-- A subschema under `prefixItems`. -/
def Prefixed (node child : Json) : Prop := ∃ value, member "prefixItems" node = some value ∧ child ∈ parts .several value

/-- Subschemas through all the keywords. -/
def Reaches : Json → Json → Prop := Relation.ReflTransGen fun node child => Follows node child ∨ Prefixed node child

/-- Subschemas that the compiler visits. -/
def Visits : Json → Json → Prop := Relation.ReflTransGen Follows

/-- Subschemas below a `prefixItems`. -/
def BelowPrefix (root node : Json) : Prop := ∃ visited item, Visits root visited ∧ Prefixed visited item ∧ Reaches item node

/-! ## What is strict -/

/-- The keys lead to an object. -/
def Leads : Json → List String → Prop
  | .object _, [] => True
  | .object members, key :: keys => ∃ value, members.lookup key = some value ∧ Leads value keys
  | _, _ => False

def keysOf (ref : String) : List String := ((ref.toList.drop 2).splitOn '/').map unescape

/-- A reference to an object under `#/$defs`. -/
structure Resolves (root : Json) (ref : String) : Prop where
  defs : ['#', '/', '$', 'd', 'e', 'f', 's', '/'] <+: ref.toList
  target : Leads root (keysOf ref)

def Declared (node : Json) : Prop := member "type" node = some (.string "object") ∨ member "properties" node ≠ none

def propertyNames (node : Json) : List String :=
  match member "properties" node with
  | some (.object properties) => properties.map Prod.fst
  | _ => []

/-- A schema is closed if it is of objects, has no default, and refers into the root. -/
structure Strict (root node : Json) : Prop where
  closed : Declared node → member "additionalProperties" node = some (.bool false) ∧
    (member "required" node).getD (.array []) = .array ((propertyNames node).map .string)
  noDefault : member "default" node = none
  refs : ∀ ref, member "$ref" node = some ref → ∃ text, ref = .string text ∧ Resolves root text

/-- The keys lead through a default of a schema that the compiler visits. -/
def Drops : Option Shape → List String → Prop
  | _, [] => False
  | some .one, key :: keys => key = "default" ∨ Drops (shapeOf key) keys
  | some .table, _ :: keys => Drops (some .one) keys
  | _, _ :: _ => False

/-- What a reference says leads through a dropped default. -/
def LosesTarget (ref : String) : Prop := Drops (some .one) (keysOf ref)

/-! ## What the compiler makes of a schema -/

mutual
/-- The compiled form of a value in some place. -/
def wireAs : Option Shape → Json → Json
  | some .one, .object members => .object (close (wireMembers members))
  | some .table, .object entries => .object (wireEntries entries)
  | some .several, .array items => .array (wireItems items)
  | _, value => value

def wireMembers : Members → Members
  | [] => []
  | (key, value) :: rest =>
    if key = "default" then wireMembers rest else (key, wireAs (shapeOf key) value) :: wireMembers rest

def wireEntries : Members → Members
  | [] => []
  | (name, child) :: rest => (name, wireAs (some .one) child) :: wireEntries rest

def wireItems : List Json → List Json
  | [] => []
  | child :: rest => wireAs (some .one) child :: wireItems rest
end

abbrev wire : Json → Json := wireAs (some .one)

theorem wireMembers_eq (members : Members) :
    wireMembers members = (members.filter (·.1 ≠ "default")).map fun m => (m.1, wireAs (shapeOf m.1) m.2) := by
  induction members with
  | nil => rfl
  | cons m members ih =>
    obtain ⟨key, value⟩ := m
    rw [wireMembers]
    split
    · next h => rw [ih, List.filter_cons_of_neg (by simpa using h)]
    · next h =>
      rw [ih, List.filter_cons_of_pos (by simpa using h)]
      rfl

theorem wireEntries_eq (entries : Members) : wireEntries entries = entries.map fun m => (m.1, wire m.2) := by
  induction entries with
  | nil => rfl
  | cons m entries ih =>
    rw [wireEntries, ih]
    rfl

theorem wireItems_eq (items : List Json) : wireItems items = items.map wire := by
  induction items with
  | nil => rfl
  | cons child items ih => rw [wireItems, ih, List.map_cons]

theorem lookup_wireMembers (members : Members) (key : String) :
    (wireMembers members).lookup key = if key = "default" then none else (members.lookup key).map (wireAs (shapeOf key)) := by
  have hfilter := Dict.lookup_filter (fun k => decide (k ≠ "default")) members key
  rw [wireMembers_eq, Dict.lookup_map fun k => wireAs (shapeOf k), hfilter]
  by_cases hkey : key = "default"
  · simp [hkey]
  · simp [hkey]

variable {key path keyword : String} {value value' ref child node : Json} {keys : List String} {place : Option Shape}
  {members schema entries : Members} {shape : Shape} {C : Canon}

theorem lookup_close (hadditional : key ≠ "additionalProperties") (hrequired : key ≠ "required") (schema : Members) :
    (close schema).lookup key = schema.lookup key := by
  rw [close]
  split
  · split
    · rw [Dict.lookup_assign, if_neg hrequired, Dict.lookup_assign, if_neg hadditional]
    · split
      · rw [Dict.lookup_assign, if_neg hrequired, Dict.lookup_assign, if_neg hadditional]
      · rw [Dict.lookup_assign, if_neg hadditional]
  · rfl

theorem member_wire (hadditional : key ≠ "additionalProperties") (hrequired : key ≠ "required") (node : Json) :
    member key (wire node) = if key = "default" then none else (member key node).map (wireAs (shapeOf key)) := by
  cases node with
  | object members =>
    rw [wire, wireAs, member, lookup_close hadditional hrequired, lookup_wireMembers]
    rfl
  | _ => simp [wire, wireAs, member]

theorem member_wire_table (name : String) (value : Json) :
    member name (wireAs (some .table) value) = (member name value).map wire := by
  cases value with
  | object entries =>
    rw [wireAs, member, wireEntries_eq]
    exact Dict.lookup_map (fun _ => wire) entries name
  | _ => simp [wireAs, member]

theorem leads_cons : Leads value (key :: keys) ↔ ∃ next, member key value = some next ∧ Leads next keys := by
  cases value <;> simp [Leads, member]

theorem not_drops_of_leads :
    ∀ {place : Option Shape} {value : Json}, Leads (wireAs place value) keys → ¬ Drops place keys := by
  induction keys with
  | nil =>
    intro place _ _
    simp [Drops]
  | cons key keys ih =>
    intro place value h
    rw [leads_cons] at h
    obtain ⟨next, hnext, hleads⟩ := h
    match place with
    | none => simp [Drops]
    | some .several => simp [Drops]
    | some .table =>
      rw [member_wire_table, Option.map_eq_some_iff] at hnext
      obtain ⟨child, -, rfl⟩ := hnext
      exact ih hleads
    | some .one =>
      rintro (rfl | hdrops)
      · rw [member_wire (by decide) (by decide), if_pos rfl] at hnext
        cases hnext
      · by_cases hassigned : key = "additionalProperties" ∨ key = "required"
        · have hplain : shapeOf key = none := by rcases hassigned with rfl | rfl <;> rfl
          rw [hplain] at hdrops
          cases keys <;> exact hdrops
        · obtain ⟨hadditional, hrequired⟩ := not_or.mp hassigned
          rw [member_wire hadditional hrequired] at hnext
          split at hnext
          · cases hnext
          · obtain ⟨old, -, rfl⟩ := Option.map_eq_some_iff.mp hnext
            exact ih hleads hdrops

/-! ## Roots on the way -/

/-- The same keys lead to objects, but for those through a default that is dropped. -/
def Alike (place : Option Shape) (value value' : Json) : Prop :=
  ∀ keys, ¬ Drops place keys → (Leads value keys ↔ Leads value' keys)

theorem Alike.trans {a b c : Json} (hab : Alike place a b) (hbc : Alike place b c) : Alike place a c :=
  fun keys hkept => (hab keys hkept).trans (hbc keys hkept)

def LeadsFrom (value : Option Json) (keys : List String) : Prop := ∃ next, value = some next ∧ Leads next keys

theorem alike_object {members' : Members} (h : ∀ key keys, ¬ Drops place (key :: keys) →
      (LeadsFrom (members.lookup key) keys ↔ LeadsFrom (members'.lookup key) keys)) :
    Alike place (.object members) (.object members') := by
  intro keys hkept
  cases keys with
  | nil => simp [Leads]
  | cons key keys => exact h key keys hkept

theorem alike_drop (members : Members) :
    Alike (some .one) (.object (members.filter (·.1 ≠ "default"))) (.object members) := by
  refine alike_object fun key keys hkept => ?_
  have hkey : key ≠ "default" := fun heq => hkept (.inl heq)
  have hfilter := Dict.lookup_filter (fun k => decide (k ≠ "default")) members key
  rw [hfilter, if_pos (by simpa using hkey)]

theorem alike_update (hshape : shapeOf key = some shape) (hlookup : schema.lookup key = some value)
    (h : Alike (some shape) value' value) :
    Alike (some .one) (.object (update key value' schema)) (.object schema) := by
  refine alike_object fun k keys hkept => ?_
  rw [Dict.lookup_update]
  by_cases hk : k = key
  · subst hk
    have hbelow : ¬ Drops (some shape) keys := by
      intro hdrops
      refine hkept (.inr ?_)
      rwa [hshape]
    simpa [hlookup, LeadsFrom] using h keys hbelow
  · simp [hk]

theorem alike_close
    (hadditional : ∀ value, schema.lookup "additionalProperties" = some value → ∀ keys, ¬ Leads value keys)
    (hrequired : ∀ value, schema.lookup "required" = some value → ∀ keys, ¬ Leads value keys) :
    Alike (some .one) (.object (close schema)) (.object schema) := by
  have hplain : ∀ {value : Json} {key : String}, (∀ old, schema.lookup key = some old → ∀ keys, ¬ Leads old keys) →
      (∀ keys, ¬ Leads value keys) → ∀ other : Members, Alike (some .one) (.object other) (.object schema) →
        other.lookup key = schema.lookup key → Alike (some .one) (.object (assign key value other)) (.object schema) := by
    intro value key hold hvalue other hother hsame
    refine alike_object fun k keys hkept => ?_
    rw [Dict.lookup_assign]
    by_cases hk : k = key
    · subst hk
      rw [if_pos rfl]
      refine iff_of_false ?_ ?_
      · rintro ⟨_, hnext, hleads⟩
        exact hvalue keys (Option.some.inj hnext ▸ hleads)
      · rintro ⟨old, hnext, hleads⟩
        exact hold old hnext keys hleads
    · rw [if_neg hk]
      exact hother (k :: keys) hkept
  have hfalse : ∀ keys, ¬ Leads (.bool false) keys := by
    intro keys
    cases keys <;> exact id
  have harray : ∀ items keys, ¬ Leads (.array items) keys := by
    intro items keys
    cases keys <;> exact id
  have hclosed := hplain hadditional hfalse schema (fun _ _ => Iff.rfl) rfl
  have hlookup : (assign "additionalProperties" (.bool false) schema).lookup "required" = schema.lookup "required" := by
    rw [Dict.lookup_assign, if_neg (by decide)]
  rw [close]
  split
  · split
    · exact hplain hrequired (harray _) _ hclosed hlookup
    · split
      · exact hplain hrequired (harray _) _ hclosed hlookup
      · exact hclosed
  · exact fun _ _ => Iff.rfl

theorem alike_entries {entries' : Members}
    (h : List.Forall₂ (fun e e' => e.1 = e'.1 ∧ Alike (some .one) e.2 e'.2) entries entries') :
    Alike (some .table) (.object entries) (.object entries') := by
  refine alike_object fun key keys hkept => ?_
  induction h with
  | nil => exact Iff.rfl
  | @cons e e' _ _ he _ ih =>
    obtain ⟨hname, halike⟩ := he
    rw [List.lookup_cons, List.lookup_cons, hname]
    split
    · simpa [LeadsFrom] using halike keys hkept
    · exact ih

/-! ## What the checks say -/

theorem follow_ok : ∀ {keys : List String} {value : Json},
    follow path value keys = .ok () ↔ Leads value keys
  | [], value => by cases value <;> simp [follow, Leads]
  | key :: keys, .object members => by
    rw [follow, Leads]
    cases hlookup : members.lookup key with
    | none => simp
    | some next => simpa using follow_ok
  | _ :: _, .null => by simp [follow, Leads]
  | _ :: _, .bool _ => by simp [follow, Leads]
  | _ :: _, .number _ => by simp [follow, Leads]
  | _ :: _, .string _ => by simp [follow, Leads]
  | _ :: _, .array _ => by simp [follow, Leads]

theorem validateRef_ok {root : Json} (h : validateRef root path ref = .ok ()) :
    ∃ text, ref = .string text ∧ Resolves root text := by
  cases ref with
  | string text =>
    simp only [validateRef, bind_ok, require_ok] at h
    obtain ⟨_, ⟨rest, hrest⟩, _, ⟨hhead, hlong⟩, hfollow⟩ := h
    refine ⟨text, rfl, ?_, follow_ok.mp hfollow⟩
    have hdrop : text.toList.drop 2 = rest := by
      rw [← hrest]
      rfl
    rw [hdrop] at hhead hlong
    have hjoined : ['/'].intercalate (rest.splitOn '/') = rest := List.intercalate_splitOn '/'
    rcases hsegments : rest.splitOn '/' with _ | ⟨first, _ | ⟨second, others⟩⟩
    · simp [hsegments] at hhead
    · simp [hsegments] at hlong
    · rw [hsegments] at hhead hjoined
      obtain rfl := Option.some.inj hhead
      rw [List.intercalate_cons_cons] at hjoined
      rw [← hrest, ← hjoined]
      exact ⟨['/'].intercalate (second :: others), by simp⟩
  | _ => cases h

theorem checkRef_ok {root : Json} (h : checkRef root path schema = .ok ()) (href : schema.lookup "$ref" = some ref) :
    ∃ text, ref = .string text ∧ Resolves root text := by
  rw [checkRef, href] at h
  exact validateRef_ok h

theorem checkProperties_ok (h : checkProperties path schema = .ok ()) (hvalue : schema.lookup "properties" = some value) :
    ∃ entries, value = .object entries := by
  rw [checkProperties, hvalue] at h
  cases value with
  | object entries => exact ⟨entries, rfl⟩
  | _ => cases h

theorem checkRequired_ok (h : checkRequired path schema = .ok ()) (hvalue : schema.lookup "required" = some value) :
    ∃ items, value = .array items := by
  rw [checkRequired, hvalue] at h
  cases value with
  | array items => exact ⟨items, rfl⟩
  | _ => cases h

theorem checkAdditional_ok (h : checkAdditional path schema = .ok ())
    (hvalue : schema.lookup "additionalProperties" = some value) : value = .bool false := by
  rw [checkAdditional, hvalue] at h
  cases value with
  | bool b =>
    cases b with
    | false => rfl
    | true => cases h
  | _ => cases h

/-! ## A run of the compiler -/

/-- What is known of a schema that the compiler visited. -/
structure Checked (root node : Json) : Prop where
  properties : ∀ value, member "properties" node = some value → ∃ entries, value = .object entries
  refs : ∀ ref, member "$ref" node = some ref → ∃ text, ref = .string text ∧ (¬ LosesTarget text → Resolves root text)

/-- Every schema in a place was visited, and checked on a root like `source`. -/
def AllChecked (source : Json) (schemas : List Json) : Prop := ∀ child ∈ schemas, ∀ node, Visits child node → Checked source node

/-- A root that is like the source whatever stands in the place that is like what stood there. -/
def Holds (source : Json) (shape : Shape) (value : Json) (root : Json → Json) : Prop :=
  ∀ v, Alike (some shape) v value → Alike (some .one) (root v) source

structure Compiled (root : Json → Json) (shape : Shape) (value value' : Json) : Prop where
  wire : value' = wireAs (some shape) value
  alike : Alike (some shape) value' value
  checked : ∀ source, Holds source shape value root → AllChecked source (parts shape value)

theorem nodup_close (h : (schema.map Prod.fst).Nodup) : ((close schema).map Prod.fst).Nodup := by
  rw [close]
  split
  · have hclosed : ((assign "additionalProperties" (.bool false) schema).map Prod.fst).Nodup := Dict.nodup_assign h
    split
    · exact Dict.nodup_assign hclosed
    · split
      · exact Dict.nodup_assign hclosed
      · exact hclosed
  · exact h

/-- The value under a keyword in its compiled form. -/
def wireKey (keyword : String) (shape : Shape) (schema : Members) : Members :=
  schema.map fun m => (m.1, if m.1 = keyword then wireAs (some shape) m.2 else m.2)

structure CompiledAt (root : Json → Json) (keyword : String) (shape : Shape) (schema schema' : Members)
    (value : Option Json) : Prop where
  wire : schema' = wireKey keyword shape schema
  alike : Alike (some .one) (.object schema') (.object schema)
  checked : ∀ source, Holds source .one (.object schema) root → ∀ v, value = some v → AllChecked source (parts shape v)

theorem lookup_wireKey (h : key ≠ keyword) (shape : Shape) (schema : Members) :
    (wireKey keyword shape schema).lookup key = schema.lookup key := by
  rw [wireKey, Dict.lookup_map fun k v => if k = keyword then wireAs (some shape) v else v]
  simp [h]

theorem keys_wireKey (keyword : String) (shape : Shape) (schema : Members) :
    (wireKey keyword shape schema).map Prod.fst = schema.map Prod.fst := by
  simp [wireKey]

theorem wireKey_assign (h : key ≠ keyword) (shape : Shape) (value : Json) (schema : Members) :
    wireKey keyword shape (assign key value schema) = assign key value (wireKey keyword shape schema) :=
  Dict.map_assign (fun k v => if k = keyword then wireAs (some shape) v else v) (if_neg h) schema

theorem wireKey_close (htype : "type" ≠ keyword) (hproperties : "properties" ≠ keyword)
    (hrequired : "required" ≠ keyword) (hadditional : "additionalProperties" ≠ keyword) (shape : Shape)
    (schema : Members) : wireKey keyword shape (close schema) = close (wireKey keyword shape schema) := by
  have htypeName : typeName (wireKey keyword shape schema) = typeName schema := by
    rw [typeName, typeName, lookup_wireKey htype]
  have hpropertiesOf : propertiesOf (wireKey keyword shape schema) = propertiesOf schema := by
    rw [propertiesOf, propertiesOf, lookup_wireKey hproperties]
  rw [close, close, htypeName, hpropertiesOf, lookup_wireKey hrequired]
  split
  · simp only []
    cases propertiesOf schema with
    | some properties => simp only [wireKey_assign hrequired, wireKey_assign hadditional]
    | none =>
      simp only []
      split
      · simp only [wireKey_assign hrequired, wireKey_assign hadditional]
      · simp only [wireKey_assign hadditional]
  · rfl

theorem wireKeys_eq (members : Members) :
    wireKey "allOf" .several (wireKey "oneOf" .several (wireKey "anyOf" .several (wireKey "$defs" .table
      (wireKey "items" .one (wireKey "properties" .table (members.filter (·.1 ≠ "default"))))))) = wireMembers members := by
  rw [wireMembers_eq]
  simp only [wireKey, List.map_map]
  refine List.map_congr_left fun m _ => ?_
  obtain ⟨key, value⟩ := m
  by_cases hproperties : key = "properties"
  · simp [hproperties, shapeOf]
  by_cases hitems : key = "items"
  · simp [hitems, shapeOf]
  by_cases hdefs : key = "$defs"
  · simp [hdefs, shapeOf]
  by_cases hany : key = "anyOf"
  · simp [hany, shapeOf]
  by_cases hone : key = "oneOf"
  · simp [hone, shapeOf]
  by_cases hall : key = "allOf"
  · simp [hall, shapeOf]
  have hnone : shapeOf key = none := by simp [shapeOf, *]
  rw [hnone]
  cases value <;> simp [wireAs, *]

theorem keyed_lookup (h : Canonical.MembersKeyed members) (hlookup : members.lookup key = some value) :
    value.Keyed := by
  induction members with
  | nil => cases hlookup
  | cons m members ih =>
    obtain ⟨name, item⟩ := m
    rw [List.lookup_cons] at hlookup
    split at hlookup
    · exact Option.some.inj hlookup ▸ h.1
    · exact ih h.2 hlookup

theorem shapeOf_some (h : shapeOf key = some shape) :
    (key = "properties" ∨ key = "$defs") ∧ shape = .table ∨ key = "items" ∧ shape = .one ∨
      (key = "anyOf" ∨ key = "oneOf" ∨ key = "allOf") ∧ shape = .several := by
  rw [shapeOf] at h
  split at h
  · next hmem => exact .inl ⟨by simpa using hmem, (Option.some.inj h).symm⟩
  · split at h
    · next heq => exact .inr (.inl ⟨heq, (Option.some.inj h).symm⟩)
    · split at h
      · next hmem => exact .inr (.inr ⟨by simpa using hmem, (Option.some.inj h).symm⟩)
      · cases h

theorem compileAt_ok {root : Json → Json} {schema' : Members} {value : Option Json}
    (hshape : shapeOf keyword = some shape) (hnodup : (schema.map Prod.fst).Nodup)
    (hlookup : schema.lookup keyword = value)
    (ih : ∀ v, value = some v → ∀ {inner v'}, compileUnder inner path keyword shape v = .ok v' → Compiled inner shape v v')
    (h : compileAt root path keyword shape schema value = .ok schema') :
    CompiledAt root keyword shape schema schema' value := by
  cases value with
  | none =>
    rw [compileAt] at h
    obtain rfl := Except.ok.inj h
    exact ⟨(Dict.map_of_lookup_none hlookup _).symm, fun _ _ => Iff.rfl, fun _ _ _ hnone => nomatch hnone⟩
  | some v =>
    rw [compileAt] at h
    simp only [bind_ok, pure_ok] at h
    obtain ⟨v', hunder, rfl⟩ := h
    obtain ⟨rfl, halike, hchecked⟩ := ih v rfl hunder
    refine ⟨Dict.update_of_lookup hnodup hlookup _, alike_update hshape hlookup halike, ?_⟩
    rintro source hholds _ ⟨⟩
    exact hchecked source fun u hu => hholds _ (alike_update hshape hlookup hu)

abbrev EntriesAlike : Members → Members → Prop := List.Forall₂ fun e e' => e.1 = e'.1 ∧ Alike (some .one) e.2 e'.2

theorem entriesAlike_refl (entries : Members) : EntriesAlike entries entries :=
  List.forall₂_same.mpr fun _ _ => ⟨rfl, fun _ _ => Iff.rfl⟩

/-- The compiler does what it should with one schema, on any root. -/
def NodeOk (node : Json) : Prop :=
  ∀ {root path node'}, node.Keyed → compileNode root path node = .ok node' → Compiled root .one node node'

theorem compileEntries_ok {root : Members → Json} (ih : ∀ e ∈ entries, NodeOk e.2) {done all : Members}
    (hkeyed : Canonical.MembersKeyed entries) (h : compileEntries root path done entries = .ok all) :
    all = done ++ wireEntries entries ∧ EntriesAlike (wireEntries entries) entries ∧
      ∀ source before, EntriesAlike done before →
        (∀ v, EntriesAlike v (before ++ entries) → Alike (some .one) (root v) source) →
          AllChecked source (entries.map Prod.snd) := by
  induction entries generalizing done with
  | nil =>
    rw [compileEntries] at h
    obtain rfl := Except.ok.inj h
    exact ⟨by simp [wireEntries], .nil, fun _ _ _ _ _ hmem => nomatch hmem⟩
  | cons e rest ih' =>
    obtain ⟨name, child⟩ := e
    rw [compileEntries] at h
    simp only [bind_ok] at h
    obtain ⟨child', hchild, hrest⟩ := h
    obtain ⟨rfl, halike, hchecked⟩ := ih _ List.mem_cons_self hkeyed.1 hchild
    obtain ⟨rfl, halikes, hcheckeds⟩ := ih' (fun e he => ih e (List.mem_cons_of_mem _ he)) hkeyed.2 hrest
    refine ⟨by simp [wireEntries], .cons ⟨rfl, halike⟩ halikes, ?_⟩
    intro source before hdone hholds c hc node hvisits
    rcases List.mem_cons.mp hc with rfl | hc
    · refine hchecked source ?_ _ (by simp [parts]) node hvisits
      intro v hv
      exact hholds _ (List.rel_append hdone (.cons ⟨rfl, hv⟩ (entriesAlike_refl rest)))
    · refine hcheckeds source (before ++ [(name, child)]) (List.rel_append hdone (.cons ⟨rfl, halike⟩ .nil)) ?_ c hc node hvisits
      intro v hv
      exact hholds v (by simpa using hv)

theorem compileAlternatives_ok {root : List Json → Json} {items : List Json} (ih : ∀ c ∈ items, NodeOk c)
    {done all : List Json} (hkeyed : Canonical.ItemsKeyed items)
    (h : compileAlternatives root path done items = .ok all) :
    all = done ++ wireItems items ∧ ∀ source, (∀ v, Alike (some .one) (root v) source) → AllChecked source items := by
  induction items generalizing done with
  | nil =>
    rw [compileAlternatives] at h
    obtain rfl := Except.ok.inj h
    exact ⟨by simp [wireItems], fun _ _ _ hmem => nomatch hmem⟩
  | cons child rest ih' =>
    rw [compileAlternatives] at h
    simp only [bind_ok] at h
    obtain ⟨child', hchild, hrest⟩ := h
    obtain ⟨rfl, -, hchecked⟩ := ih _ List.mem_cons_self hkeyed.1 hchild
    obtain ⟨rfl, hcheckeds⟩ := ih' (fun c hc => ih c (List.mem_cons_of_mem _ hc)) hkeyed.2 hrest
    refine ⟨by simp [wireItems], ?_⟩
    intro source hholds c hc node hvisits
    rcases List.mem_cons.mp hc with rfl | hc
    · exact hchecked source (fun v _ => hholds _) _ (by simp [parts]) node hvisits
    · exact hcheckeds source hholds c hc node hvisits

theorem compileUnder_ok {root : Json → Json} (ih : ∀ c ∈ parts shape value, NodeOk c) (hkeyed : value.Keyed)
    (h : compileUnder root path keyword shape value = .ok value') : Compiled root shape value value' := by
  cases shape with
  | one =>
    rw [compileUnder] at h
    exact ih value (by simp [parts]) hkeyed h
  | table =>
    cases value with
    | object entries =>
      rw [compileUnder] at h
      simp only [bind_ok, pure_ok] at h
      obtain ⟨entries', hentries, rfl⟩ := h
      obtain ⟨rfl, halike, hchecked⟩ := compileEntries_ok (fun e he => ih e.2 (List.mem_map_of_mem he)) hkeyed.2 hentries
      refine ⟨by simp [wireAs], alike_entries halike, ?_⟩
      intro source hholds
      exact hchecked source [] .nil fun v hv => hholds _ (alike_entries hv)
    | _ => simp [compileUnder] at h
  | several =>
    cases value with
    | array items =>
      cases items with
      | nil => simp [compileUnder] at h
      | cons first rest =>
        rw [compileUnder] at h
        simp only [bind_ok, pure_ok] at h
        obtain ⟨items', hitems, rfl⟩ := h
        obtain ⟨rfl, hchecked⟩ := compileAlternatives_ok (fun c hc => ih c hc) hkeyed hitems
        have harrays : ∀ a b, Alike (some .several) (.array a) (.array b) := by
          intro a b keys _
          cases keys <;> simp [Leads]
        exact ⟨by simp [wireAs, parts], harrays _ _, fun source hholds => hchecked source fun v => hholds _ (harrays _ _)⟩
    | _ => simp [compileUnder] at h

theorem sizeOf_parts (h : child ∈ parts shape value) : sizeOf child ≤ sizeOf value := by
  cases shape with
  | one => simp_all [parts]
  | table =>
    cases value with
    | object entries =>
      obtain ⟨e, he, rfl⟩ := List.mem_map.mp h
      have hentry := List.sizeOf_lt_of_mem he
      obtain ⟨name, child⟩ := e
      simp only [Prod.mk.sizeOf_spec, Json.object.sizeOf_spec] at hentry ⊢
      omega
    | _ => simp [parts] at h
  | several =>
    cases value with
    | array items =>
      have hitem : sizeOf child < sizeOf items := List.sizeOf_lt_of_mem h
      simp only [Json.array.sizeOf_spec]
      omega
    | _ => simp [parts] at h

theorem compileNode_ok (node : Json) : NodeOk node := by
  induction hsize : sizeOf node using Nat.strong_induction_on generalizing node with
  | _ size smaller =>
  intro root path node' hkeyed h
  cases node with
  | object members =>
    rw [compileNode] at h
    simp only [bind_ok, pure_ok] at h
    obtain ⟨_, -, _, href, _, hproperties, s₁, h₁, _, hrequired, _, hadditional, s₃, h₃, s₄, h₄, s₅, h₅, s₆, h₆, s₇, h₇, _, -,
      rfl⟩ := h
    have hfilter : ∀ key, key ≠ "default" → (members.filter (·.1 ≠ "default")).lookup key = members.lookup key := by
      intro key hkey
      have := Dict.lookup_filter (fun k => decide (k ≠ "default")) members key
      rw [this, if_pos (by simpa using hkey)]
    have ih : ∀ keyword shape v, members.lookup keyword = some v → ∀ {inner v'},
        compileUnder inner path keyword shape v = .ok v' → Compiled inner shape v v' := by
      intro keyword shape v hv inner v' hunder
      refine compileUnder_ok ?_ (keyed_lookup hkeyed.2 hv) hunder
      intro c hc
      refine smaller (sizeOf c) ?_ c rfl
      have hlookup := sizeOf_lookup keyword members
      have hpart := sizeOf_parts hc
      rw [hv, Option.some.sizeOf_spec] at hlookup
      rw [← hsize, Json.object.sizeOf_spec]
      omega
    -- The keywords in the order of the source; each finds its value as it was at the start.
    have hnodup₀ : ((members.filter (·.1 ≠ "default")).map Prod.fst).Nodup :=
      hkeyed.1.sublist (List.filter_sublist.map Prod.fst)
    have c₁ := compileAt_ok rfl hnodup₀ (hfilter _ (by decide)) (ih _ _) h₁
    obtain rfl := c₁.wire
    have hnodup₁ := hnodup₀
    rw [← keys_wireKey "properties" .table] at hnodup₁
    have hnodup₂ := nodup_close hnodup₁
    have hlookup₂ : ∀ key, key ≠ "default" → key ≠ "properties" → key ≠ "additionalProperties" → key ≠ "required" →
        (close (wireKey "properties" .table (members.filter (·.1 ≠ "default")))).lookup key = members.lookup key := by
      intro key hdefault hproperties hadditional hrequired
      rw [lookup_close hadditional hrequired, lookup_wireKey hproperties, hfilter _ hdefault]
    have c₃ := compileAt_ok rfl hnodup₂ (hlookup₂ _ (by decide) (by decide) (by decide) (by decide)) (ih _ _) h₃
    obtain rfl := c₃.wire
    have hnodup₃ := hnodup₂
    rw [← keys_wireKey "items" .one] at hnodup₃
    have c₄ := compileAt_ok rfl hnodup₃
      (by rw [lookup_wireKey (by decide), hlookup₂ _ (by decide) (by decide) (by decide) (by decide)]) (ih _ _) h₄
    obtain rfl := c₄.wire
    have hnodup₄ := hnodup₃
    rw [← keys_wireKey "$defs" .table] at hnodup₄
    have c₅ := compileAt_ok rfl hnodup₄
      (by rw [lookup_wireKey (by decide), lookup_wireKey (by decide),
        hlookup₂ _ (by decide) (by decide) (by decide) (by decide)]) (ih _ _) h₅
    obtain rfl := c₅.wire
    have hnodup₅ := hnodup₄
    rw [← keys_wireKey "anyOf" .several] at hnodup₅
    have c₆ := compileAt_ok rfl hnodup₅
      (by rw [lookup_wireKey (by decide), lookup_wireKey (by decide), lookup_wireKey (by decide),
        hlookup₂ _ (by decide) (by decide) (by decide) (by decide)]) (ih _ _) h₆
    obtain rfl := c₆.wire
    have hnodup₆ := hnodup₅
    rw [← keys_wireKey "oneOf" .several] at hnodup₆
    have c₇ := compileAt_ok rfl hnodup₆
      (by rw [lookup_wireKey (by decide), lookup_wireKey (by decide), lookup_wireKey (by decide),
        lookup_wireKey (by decide), hlookup₂ _ (by decide) (by decide) (by decide) (by decide)]) (ih _ _) h₇
    obtain rfl := c₇.wire
    -- Whatever the state of the node, it is like the node of the source.
    have a₀ := alike_drop members
    have a₁ := c₁.alike.trans a₀
    have a₂ : Alike (some .one) (.object (close (wireKey "properties" .table (members.filter (·.1 ≠ "default")))))
        (.object members) := by
      refine Alike.trans (alike_close ?_ ?_) a₁
      · intro value hvalue keys
        rw [checkAdditional_ok hadditional hvalue]
        cases keys <;> exact id
      · intro value hvalue keys
        obtain ⟨items, rfl⟩ := checkRequired_ok hrequired hvalue
        cases keys <;> exact id
    have a₃ := c₃.alike.trans a₂
    have a₄ := c₄.alike.trans a₃
    have a₅ := c₅.alike.trans a₄
    have a₆ := c₆.alike.trans a₅
    have a₇ := c₇.alike.trans a₆
    refine ⟨?_, a₇, ?_⟩
    · rw [wireAs, ← wireKeys_eq]
      repeat rw [wireKey_close (by decide) (by decide) (by decide) (by decide)]
    · intro source hholds child hchild node hvisits
      obtain rfl : child = .object members := by simpa [parts] using hchild
      have hstate : ∀ {state}, Alike (some .one) state (.object members) → Holds source .one state root :=
        fun halike v hv => hholds v (hv.trans halike)
      rcases Relation.ReflTransGen.cases_head hvisits with rfl | ⟨next, ⟨key, shape, value, hshape, hvalue, hnext⟩, hvisits⟩
      · constructor
        · intro value hvalue
          exact checkProperties_ok hproperties ((hfilter _ (by decide)).trans hvalue)
        · intro ref href'
          obtain ⟨text, rfl, hresolves⟩ := checkRef_ok href ((hfilter _ (by decide)).trans href')
          exact ⟨text, rfl, fun hkept => ⟨hresolves.defs, (hholds _ a₀ _ hkept).mp hresolves.target⟩⟩
      · rcases shapeOf_some hshape with ⟨rfl | rfl, rfl⟩ | ⟨rfl, rfl⟩ | ⟨rfl | rfl | rfl, rfl⟩
        · exact c₁.checked source (hstate a₀) value hvalue next hnext node hvisits
        · exact c₄.checked source (hstate a₃) value hvalue next hnext node hvisits
        · exact c₃.checked source (hstate a₂) value hvalue next hnext node hvisits
        · exact c₅.checked source (hstate a₄) value hvalue next hnext node hvisits
        · exact c₆.checked source (hstate a₅) value hvalue next hnext node hvisits
        · exact c₇.checked source (hstate a₆) value hvalue next hnext node hvisits
  | _ => simp [compileNode] at h

/-! ## Closure -/

/-- Every subschema of a schema is strict. -/
def Closed (schema : Json) : Prop := ∀ node, Reaches schema node → Strict schema node

theorem parts_wire (shape : Shape) (value : Json) : parts shape (wireAs (some shape) value) = (parts shape value).map wire := by
  cases shape with
  | one => simp [parts]
  | table =>
    cases value with
    | object entries => simp [wireAs, parts, wireEntries_eq]
    | _ => simp [wireAs, parts]
  | several =>
    cases value with
    | array items => simp [wireAs, parts, wireItems_eq]
    | _ => simp [wireAs, parts]

theorem shapeOf_plain (h : shapeOf key = some shape) :
    key ≠ "additionalProperties" ∧ key ≠ "required" ∧ key ≠ "default" := by
  rcases shapeOf_some h with ⟨rfl | rfl, -⟩ | ⟨rfl, -⟩ | ⟨rfl | rfl | rfl, -⟩ <;> decide

theorem follows_wire {child' : Json} :
    Follows (wire node) child' ↔ ∃ child, Follows node child ∧ child' = wire child := by
  constructor
  · rintro ⟨key, shape, value', hshape, hvalue, hchild⟩
    obtain ⟨hadditional, hrequired, hdefault⟩ := shapeOf_plain hshape
    rw [member_wire hadditional hrequired, if_neg hdefault, hshape, Option.map_eq_some_iff] at hvalue
    obtain ⟨value, hvalue, rfl⟩ := hvalue
    rw [parts_wire] at hchild
    obtain ⟨child, hpart, rfl⟩ := List.mem_map.mp hchild
    exact ⟨child, ⟨key, shape, value, hshape, hvalue, hpart⟩, rfl⟩
  · rintro ⟨child, ⟨key, shape, value, hshape, hvalue, hchild⟩, rfl⟩
    obtain ⟨hadditional, hrequired, hdefault⟩ := shapeOf_plain hshape
    refine ⟨key, shape, wireAs (some shape) value, hshape, ?_, ?_⟩
    · rw [member_wire hadditional hrequired, if_neg hdefault, hshape, hvalue]
      rfl
    · rw [parts_wire]
      exact List.mem_map_of_mem hchild

theorem member_wire_plain (hadditional : key ≠ "additionalProperties") (hrequired : key ≠ "required")
    (hdefault : key ≠ "default") (hshape : shapeOf key = none) (node : Json) :
    member key (wire node) = member key node := by
  have hid : wireAs none = id := by
    funext value
    cases value <;> simp [wireAs]
  rw [member_wire hadditional hrequired, if_neg hdefault, hshape, hid, Option.map_id, id]

theorem prefixed_wire : Prefixed (wire node) child ↔ Prefixed node child := by
  rw [Prefixed, member_wire_plain (by decide) (by decide) (by decide) (by decide), Prefixed]

theorem reaches_wire {source node' : Json} :
    Reaches (wire source) node' ↔ (∃ node, Visits source node ∧ node' = wire node) ∨ BelowPrefix source node' := by
  constructor
  · intro h
    induction h with
    | refl => exact .inl ⟨source, .refl, rfl⟩
    | tail _ hstep ih =>
      rcases ih with ⟨node, hvisits, rfl⟩ | ⟨visited, item, hvisits, hitem, hbelow⟩
      · rcases hstep with hfollows | hprefixed
        · obtain ⟨child, hchild, rfl⟩ := follows_wire.mp hfollows
          exact .inl ⟨child, hvisits.tail hchild, rfl⟩
        · exact .inr ⟨node, _, hvisits, prefixed_wire.mp hprefixed, .refl⟩
      · exact .inr ⟨visited, item, hvisits, hitem, hbelow.tail hstep⟩
  · have hvisited : ∀ {node}, Visits source node → Reaches (wire source) (wire node) := by
      intro node h
      induction h with
      | refl => exact .refl
      | tail _ hstep ih => exact ih.tail (.inl (follows_wire.mpr ⟨_, hstep, rfl⟩))
    rintro (⟨node, hvisits, rfl⟩ | ⟨visited, item, hvisits, hitem, hbelow⟩)
    · exact hvisited hvisits
    · exact ((hvisited hvisits).tail (.inr (prefixed_wire.mpr hitem))).trans hbelow

theorem reaches_iff {source : Json} : Reaches source node ↔ Visits source node ∨ BelowPrefix source node := by
  constructor
  · intro h
    induction h with
    | refl => exact .inl .refl
    | tail _ hstep ih =>
      rcases ih with hvisits | ⟨visited, item, hvisits, hitem, hbelow⟩
      · rcases hstep with hfollows | hprefixed
        · exact .inl (hvisits.tail hfollows)
        · exact .inr ⟨_, _, hvisits, hprefixed, .refl⟩
      · exact .inr ⟨visited, item, hvisits, hitem, hbelow.tail hstep⟩
  · have hvisited : ∀ {node}, Visits source node → Reaches source node :=
      fun h => Relation.ReflTransGen.mono (fun _ _ => Or.inl) _ _ h
    rintro (hvisits | ⟨visited, item, hvisits, hitem, hbelow⟩)
    · exact hvisited hvisits
    · exact ((hvisited hvisits).tail (.inr hitem)).trans hbelow

theorem close_closed (htyped : Declared (.object schema))
    (hproperties : ∀ value, schema.lookup "properties" = some value → ∃ entries, value = .object entries) :
    (close schema).lookup "additionalProperties" = some (.bool false) ∧
      ((close schema).lookup "required").getD (.array []) = .array ((propertyNames (.object schema)).map .string) := by
  have hdeclared : typeName schema = some "object" ∨ (propertiesOf schema).isSome := by
    rcases htyped with htype | hsome
    · left
      rw [member] at htype
      rw [typeName, htype]
    · right
      obtain ⟨value, hvalue⟩ := Option.ne_none_iff_exists'.mp hsome
      obtain ⟨entries, rfl⟩ := hproperties value hvalue
      rw [member] at hvalue
      rw [propertiesOf, hvalue]
      rfl
  have hnames : ∀ properties, propertiesOf schema = some properties → propertyNames (.object schema) = properties.map Prod.fst := by
    intro properties h
    rw [propertiesOf] at h
    rw [propertyNames, member]
    split at h
    · exact congrArg _ (Option.some.inj h)
    · cases h
  have hno : propertiesOf schema = none → propertyNames (.object schema) = [] := by
    intro h
    rw [propertyNames, member]
    split
    · next entries hvalue =>
      rw [propertiesOf, hvalue] at h
      cases h
    · rfl
  rw [close, if_pos hdeclared]
  simp only []
  cases hof : propertiesOf schema with
  | some properties =>
    simp only [Dict.lookup_assign, hnames properties hof, List.map_map]
    exact ⟨by simp, by simp [Function.comp_def]⟩
  | none =>
    rw [hno hof]
    simp only []
    split
    · simp [Dict.lookup_assign]
    · next hrequired =>
      rw [Option.not_isSome_iff_eq_none] at hrequired
      simp [Dict.lookup_assign, hrequired]

theorem wire_closed {source : Json} (hchecked : Checked source node) (htyped : Declared (wire node)) :
    member "additionalProperties" (wire node) = some (.bool false) ∧
      (member "required" (wire node)).getD (.array []) = .array ((propertyNames (wire node)).map .string) := by
  cases node with
  | object members =>
    have hkept : ∀ key, key ≠ "additionalProperties" → key ≠ "required" →
        member key (wire (.object members)) = member key (.object (wireMembers members)) := by
      intro key hadditional hrequired
      rw [wire, wireAs, member, member, lookup_close hadditional hrequired]
    rw [Declared, hkept _ (by decide) (by decide), hkept _ (by decide) (by decide)] at htyped
    rw [propertyNames, hkept "properties" (by decide) (by decide)]
    refine close_closed htyped ?_
    intro value hvalue
    rw [lookup_wireMembers, if_neg (by decide), Option.map_eq_some_iff] at hvalue
    obtain ⟨old, hold, rfl⟩ := hvalue
    obtain ⟨entries, rfl⟩ := hchecked.properties old hold
    exact ⟨wireEntries entries, by simp [shapeOf, wireAs]⟩
  | _ => simp [Declared, wire, wireAs, member] at htyped

theorem digest_keyed {sha : List UInt8 → List UInt8} {digest : String}
    (h : Canonical.canonicalDigest C sha value = .ok digest) : value.Keyed := by
  simp only [Canonical.canonicalDigest, bind_ok] at h
  obtain ⟨bytes, hbytes, -⟩ := h
  exact (Canonical.canonicalBytes_ok.mp hbytes).2.1

theorem compiled_ok {sha : List UInt8 → List UInt8} {source : Json} {compiled : CompiledStructuredSchema}
    (h : compileStrictOutputSchema C sha source = .ok compiled) :
    compiled.wireSchema = wire source ∧ Alike (some .one) (wire source) source ∧
      ∀ node, Visits source node → Checked source node := by
  cases source with
  | object members =>
    simp only [compileStrictOutputSchema, bind_ok, pure_ok] at h
    obtain ⟨_, hdigest, _, -, wireSchema, hcompile, _, -, rfl⟩ := h
    obtain ⟨rfl, halike, hchecked⟩ := compileNode_ok _ (digest_keyed (mapError_ok.mp hdigest)) hcompile
    exact ⟨rfl, halike, fun node => hchecked _ (fun _ hv => hv) _ (by simp [parts]) node⟩
  | _ => cases h

/-- The compiled schema of a schema is strict throughout exactly if what stands below a
`prefixItems` is strict as it is, and no reference leads through a default that is dropped. -/
theorem strict_closure_iff (C : Canon) (sha : List UInt8 → List UInt8) (source : Json) (compiled : CompiledStructuredSchema)
    (h : compileStrictOutputSchema C sha source = .ok compiled) :
    Closed compiled.wireSchema ↔
      (∀ node, BelowPrefix source node → Strict source node) ∧
        ∀ node, Reaches source node → ∀ ref, member "$ref" node = some (.string ref) → ¬ LosesTarget ref := by
  obtain ⟨hwire, halike, hchecked⟩ := compiled_ok h
  have hkept : ∀ {ref}, Resolves (wire source) ref → ¬ LosesTarget ref := fun hresolves => not_drops_of_leads hresolves.target
  have href : ∀ node, member "$ref" (wire node) = member "$ref" node :=
    member_wire_plain (by decide) (by decide) (by decide) (by decide)
  rw [hwire]
  constructor
  · intro hclosed
    constructor
    · intro node hbelow
      obtain ⟨hobject, hdefault, hrefs⟩ := hclosed node (reaches_wire.mpr (.inr hbelow))
      refine ⟨hobject, hdefault, ?_⟩
      intro ref hmember
      obtain ⟨text, rfl, hresolves⟩ := hrefs ref hmember
      exact ⟨text, rfl, hresolves.defs, (halike _ (hkept hresolves)).mp hresolves.target⟩
    · intro node hreaches ref hmember
      rcases reaches_iff.mp hreaches with hvisits | hbelow
      · have hstrict := hclosed (wire node) (reaches_wire.mpr (.inl ⟨node, hvisits, rfl⟩))
        obtain ⟨text, htext, hresolves⟩ := hstrict.refs _ ((href node).trans hmember)
        obtain rfl := Json.string.inj htext
        exact hkept hresolves
      · obtain ⟨text, htext, hresolves⟩ := (hclosed node (reaches_wire.mpr (.inr hbelow))).refs _ hmember
        obtain rfl := Json.string.inj htext
        exact hkept hresolves
  · rintro ⟨hbelow, hlost⟩ node' hreaches
    have hresolves : ∀ {ref}, ¬ LosesTarget ref → Resolves source ref → Resolves (wire source) ref :=
      fun hlost h => ⟨h.defs, (halike _ hlost).mpr h.target⟩
    rcases reaches_wire.mp hreaches with ⟨node, hvisits, rfl⟩ | hprefixed
    · have hnode := hchecked node hvisits
      refine ⟨wire_closed hnode, ?_, ?_⟩
      · rw [member_wire (by decide) (by decide), if_pos rfl]
      · intro ref hmember
        rw [href] at hmember
        obtain ⟨text, rfl, hres⟩ := hnode.refs ref hmember
        have hkeeps := hlost node (reaches_iff.mpr (.inl hvisits)) text hmember
        exact ⟨text, rfl, hresolves hkeeps (hres hkeeps)⟩
    · obtain ⟨hobject, hdefault, hrefs⟩ := hbelow node' hprefixed
      refine ⟨hobject, hdefault, ?_⟩
      intro ref hmember
      obtain ⟨text, rfl, hres⟩ := hrefs ref hmember
      exact ⟨text, rfl, hresolves (hlost node' (reaches_iff.mpr (.inr hprefixed)) text hmember) hres⟩

/-! ## A tuple of an object -/

namespace Sample

/-- `{"type": "array", "prefixItems": [{"type": "object"}]}`. -/
def pair : Json := .object [("type", .string "array"), ("prefixItems", .array [.object [("type", .string "object")]])]

def source : Json := .object [("type", .string "object"), ("properties", .object [("x", pair)])]

def compiled : Json :=
  .object [("type", .string "object"), ("properties", .object [("x", pair)]), ("additionalProperties", .bool false),
    ("required", .array [.string "x"])]

/-- The writer on the two schemas, by their number of members. -/
def dumps : Json → Except Canonical.Error (List UInt8)
  | .object [_, _] =>
    .ok "\x7b\"properties\":\x7b\"x\":\x7b\"prefixItems\":[\x7b\"type\":\"object\"\x7d],\"type\":\"array\"\x7d\x7d,\"type\":\"object\"\x7d".toUTF8.toList
  | _ =>
    .ok "\x7b\"additionalProperties\":false,\"properties\":\x7b\"x\":\x7b\"prefixItems\":[\x7b\"type\":\"object\"\x7d],\"type\":\"array\"\x7d\x7d,\"required\":[\"x\"],\"type\":\"object\"\x7d".toUTF8.toList

def canon : Canon := ⟨id, dumps⟩

/-- SHA-256 of the two texts, by their length. -/
def sha (bytes : List UInt8) : List UInt8 :=
  if bytes.length = 87 then
    [161, 127, 242, 31, 124, 248, 235, 76, 112, 34, 100, 177, 216, 176, 0, 34, 141, 201, 26, 34, 187, 26, 165, 36, 5, 194,
      57, 5, 169, 20, 72, 118]
  else
    [78, 54, 230, 127, 219, 106, 250, 74, 203, 152, 172, 242, 55, 121, 43, 119, 60, 154, 248, 72, 25, 69, 191, 234, 32, 232,
      175, 156, 189, 185, 221, 62]

theorem canonical {value : Json} (hkeyed : value.Keyed) : ∃ digest, Canonical.canonicalDigest canon sha value = .ok digest := by
  have hbytes : ∃ bytes, Canonical.canonicalBytes canon value = .ok bytes := by
    have hdumps : ∃ bytes, dumps value = .ok bytes := by
      rw [dumps.eq_def]
      split <;> exact ⟨_, rfl⟩
    obtain ⟨bytes, hdumps⟩ := hdumps
    exact ⟨bytes, Canonical.canonicalBytes_ok.mpr ⟨fun _ _ => rfl, hkeyed, hdumps⟩⟩
  obtain ⟨bytes, hbytes⟩ := hbytes
  exact ⟨_, by simp only [Canonical.canonicalDigest, bind_ok, pure_ok]; exact ⟨bytes, hbytes, rfl⟩⟩

theorem compileNode_source : compileNode id "$" source = .ok compiled := by
  simp [source, compiled, pair, compileNode, compileAt, compileUnder, compileEntries, checkType, checkRef, checkProperties,
    checkRequired, checkAdditional, checkOpen, typeName, propertiesOf, jsonTypes, close, assign, update, List.lookup_cons, List.lookup_nil,
    -List.lookup_eq_none_iff]

theorem keyed : source.Keyed ∧ compiled.Keyed := by
  simp [source, compiled, pair, Json.Keyed, Canonical.MembersKeyed, Canonical.ItemsKeyed]

theorem compileStrictOutputSchema_source :
    ∃ sourceDigest wireDigest, compileStrictOutputSchema canon sha source = .ok ⟨source, compiled, sourceDigest, wireDigest⟩ := by
  obtain ⟨sourceDigest, hsource⟩ := canonical keyed.1
  obtain ⟨wireDigest, hwire⟩ := canonical keyed.2
  refine ⟨sourceDigest, wireDigest, ?_⟩
  rw [source] at hsource ⊢
  simp only [compileStrictOutputSchema, bind_ok, mapError_ok, pure_ok]
  exact ⟨sourceDigest, hsource, (), rfl, compiled, compileNode_source, wireDigest, hwire, rfl⟩

end Sample

/-- The object of a tuple stays open. -/
theorem tuple_item_open :
    ¬ ∀ (C : Canon) sha source compiled, compileStrictOutputSchema C sha source = .ok compiled →
      Closed compiled.wireSchema := by
  intro hclaim
  obtain ⟨_, _, hcompiled⟩ := Sample.compileStrictOutputSchema_source
  have hclosed := hclaim _ _ _ _ hcompiled
  have hpair : Follows Sample.compiled Sample.pair :=
    ⟨"properties", .table, .object [("x", Sample.pair)], rfl, rfl, by simp [parts]⟩
  have hitem : Prefixed Sample.pair (.object [("type", .string "object")]) :=
    ⟨.array [.object [("type", .string "object")]], rfl, by simp [parts]⟩
  have hstrict := (hclosed _ (.tail (.tail .refl (.inl hpair)) (.inr hitem))).closed (.inl rfl)
  cases hstrict.1

theorem strict_closure_iff_tuple : ∃ sourceDigest wireDigest,
    Closed (CompiledStructuredSchema.mk Sample.source Sample.compiled sourceDigest wireDigest).wireSchema ↔
      (∀ node, BelowPrefix Sample.source node → Strict Sample.source node) ∧
        ∀ node, Reaches Sample.source node → ∀ ref, member "$ref" node = some (.string ref) → ¬ LosesTarget ref := by
  obtain ⟨sourceDigest, wireDigest, hcompiled⟩ := Sample.compileStrictOutputSchema_source
  exact ⟨sourceDigest, wireDigest, strict_closure_iff Sample.canon Sample.sha Sample.source _ hcompiled⟩

end AvoCorrelate.StructuredSchema
