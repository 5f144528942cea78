import ProtoStore.Proofs.Emit.ItemNames
import ProtoStore.Proofs.Schema.Joins
import ProtoStore.Proofs.Text.Words

/-!
# When item names clash

The items of a file are named after its messages and their fields. Nothing keeps these names apart.

* `Affixes.around_eq` : names of functions are the same only if one message is named as the set of another;
* `Message.itemNames` : the names that a message gives to its items, read off the schema;
* `Message.functionNames_nodup_iff` : when the functions about messages have different names;
* `Message.names_nodup_iff` : when messages give different names to all of their items.
-/

namespace ProtoStore

variable {schema : Schema} {message : Message} {name one other text more : String} {messages : List Message}

/-! ## Spellings -/

/-- Whether a text begins with a lower-case letter of ASCII, as the names of functions do. -/
def Text.beginsLower (text : String) : Bool := text.toList.head?.any Char.isLower

theorem Text.beginsLower_append (h : beginsLower text = true) : beginsLower (text ++ more) = true := by
  unfold beginsLower at h ⊢
  rw [String.toList_append, List.head?_append]
  cases first : text.toList.head? with
  | none => simp [first] at h
  | some c => simpa [first] using h

theorem Text.not_beginsLower_append (h : beginsLower text = false) (later : beginsLower more = false) :
    beginsLower (text ++ more) = false := by
  unfold beginsLower at h later ⊢
  rw [String.toList_append, List.head?_append]
  cases first : text.toList.head? with
  | none => simpa using later
  | some c => simpa [first] using h

/-- Texts that end in different characters are different. -/
theorem Text.append_ne {ending other : String} (h : ending.toList.getLast? ≠ other.toList.getLast?)
    (last : ending.toList.getLast?.isSome = true) (other_last : other.toList.getLast?.isSome = true)
    (text more : String) : text ++ ending ≠ more ++ other := by
  intro same
  have ends := congrArg (·.toList.getLast?) same
  simp only [String.toList_append, List.getLast?_append, Option.or_of_isSome last, Option.or_of_isSome other_last]
    at ends
  exact h ends

namespace Naming

theorem not_beginsLower_camel (name : String) : Text.beginsLower (camel name) = false := by
  have spelled : Text.beginsLower (Text.camelCase name) = false := by
    unfold Text.beginsLower
    cases first : (Text.camelCase name).toList.head? with
    | none => rfl
    | some c => exact Text.camelCase_head first
  unfold camel
  dsimp only
  split
  · exact Text.not_beginsLower_append spelled (by decide)
  · exact spelled

/-- The spelling of a type is that of the name in camel case, and gives it back. -/
theorem camel_eq_iff : camel one = camel other ↔ Text.camelCase one = Text.camelCase other := by
  have plain (name : String) : Text.camelCase name ≠ "Self" ++ "_" := fun same =>
    Text.underscore_not_mem_camelCase name (by rw [same]; decide)
  constructor
  · intro same
    unfold camel at same
    dsimp only at same
    split at same <;> split at same
    · simp_all
    · next reserved _ =>
      rw [beq_iff_eq.mp reserved] at same
      exact absurd same.symm (plain other)
    · next reserved =>
      rw [beq_iff_eq.mp reserved] at same
      exact absurd same (plain one)
    · exact same
  · intro same
    rw [camel, camel, same]

/-- Whether a name is that of the set of what another one names. -/
def IsSetOf (one other : String) : Prop := one = other ++ "_set" ∨ one = "set_" ++ other

instance : DecidableRel IsSetOf := fun one other => inferInstanceAs (Decidable (one = other ++ "_set" ∨ _))

theorem not_isSetOf_self (name : String) : ¬ IsSetOf name name := by
  rintro (same | same) <;> simpa using congrArg String.length same

end Naming

/-! ## Functions -/

namespace Affixes

open Naming (IsSetOf)

variable {first second : Affixes}

/-- The affixes of all functions about a message. -/
def all : List Affixes := mask :: (operations ++ [load])

theorem patch_eq_iff : around ⟨"default_patch_", ""⟩ one = around ⟨"default_patch_set_", ""⟩ other ↔
    one = "set_" ++ other := by
  have longer : "default_patch_set_" = "default_patch_" ++ "set_" := by decide
  simp only [around, longer, String.append_empty, String.append_assoc, String.append_right_inj]

theorem delete_eq_iff : around ⟨"default_delete_", ""⟩ one = around ⟨"default_delete_", "_set"⟩ other ↔
    one = other ++ "_set" := by
  simp only [around, String.append_empty, String.append_assoc, String.append_right_inj]

/-- Affixes that give one name begin alike. -/
theorem prefix_of_around_eq (h : first.around one = second.around other) :
    first.before.toList <+: second.before.toList ∨ second.before.toList <+: first.before.toList := by
  have texts := congrArg String.toList h
  simp only [around, String.toList_append, List.append_assoc] at texts
  have begins : second.before.toList <+: first.before.toList ++ (one.toList ++ first.after.toList) :=
    texts ▸ List.prefix_append _ _
  exact List.prefix_or_prefix_of_prefix (List.prefix_append _ _) begins

/-- Of all functions, only patches and deletions begin as others do. -/
theorem around_eq (inside : first ∈ all) (within : second ∈ all) (h : first.around one = second.around other) :
    first = second ∧ one = other ∨
      first ∈ operations ∧ second ∈ operations ∧ (IsSetOf one other ∨ IsSetOf other one) := by
  by_cases same : first = second
  · subst same
    simp only [around, String.append_left_inj, String.append_right_inj] at h
    exact .inl ⟨rfl, h⟩
  have pairs : ∀ first ∈ all, ∀ second ∈ all, first ≠ second →
      (first.before.toList <+: second.before.toList ∨ second.before.toList <+: first.before.toList) →
      (first, second) ∈ [((⟨"default_patch_", ""⟩, ⟨"default_patch_set_", ""⟩) : Affixes × Affixes),
        (⟨"default_patch_set_", ""⟩, ⟨"default_patch_", ""⟩), (⟨"default_delete_", ""⟩, ⟨"default_delete_", "_set"⟩),
        (⟨"default_delete_", "_set"⟩, ⟨"default_delete_", ""⟩)] := by decide
  have pair := pairs first inside second within same (prefix_of_around_eq h)
  simp only [List.mem_cons, Prod.mk.injEq, List.not_mem_nil, or_false] at pair
  right
  rcases pair with ⟨rfl, rfl⟩ | ⟨rfl, rfl⟩ | ⟨rfl, rfl⟩ | ⟨rfl, rfl⟩
  · exact ⟨by decide, by decide, .inl (.inr (patch_eq_iff.mp h))⟩
  · exact ⟨by decide, by decide, .inr (.inr (patch_eq_iff.mp h.symm))⟩
  · exact ⟨by decide, by decide, .inl (.inl (delete_eq_iff.mp h))⟩
  · exact ⟨by decide, by decide, .inr (.inl (delete_eq_iff.mp h.symm))⟩

theorem beginsLower_around (inside : first ∈ all) : Text.beginsLower (first.around name) = true := by
  have each : ∀ affixes ∈ all, Text.beginsLower affixes.before = true := by decide
  exact Text.beginsLower_append (Text.beginsLower_append (each first inside))

end Affixes

/-! ## Messages -/

/-- Whether a message has a primary key. -/
def Message.isKeyed (message : Message) : Bool :=
  match message.primaryKey with
  | .ok (some _) => true
  | _ => false

/-- Messages whose names stay different in both spellings. -/
structure SpelledApart (messages : List Message) : Prop where
  snake : (messages.map fun message => Text.snakeCase message.name).Nodup
  camel : (messages.map fun message => Text.camelCase message.name).Nodup

theorem spelledApart_iff : SpelledApart messages ↔ (messages.map fun message => Text.snakeCase message.name).Nodup ∧
    (messages.map fun message => Text.camelCase message.name).Nodup :=
  ⟨fun h => ⟨h.snake, h.camel⟩, fun ⟨snake, camel⟩ => ⟨snake, camel⟩⟩

instance : DecidablePred SpelledApart := fun _ => decidable_of_iff _ spelledApart_iff.symm

namespace Message

/-- The affixes of the functions about a message. One with a key has operations, and a function that loads its
associations if it has any. -/
def affixes (schema : Schema) (message : Message) : List Affixes :=
  Affixes.mask :: if message.isKeyed then
    Affixes.operations ++ if message.fields.any fun field => (field.target? schema).isSome then [Affixes.load] else []
  else []

/-- The names of the functions about a message. -/
def functionNames (schema : Schema) (message : Message) : List String :=
  (message.affixes schema).map (·.around (Text.snakeCase message.name))

/-- The name of the record of a message. -/
def recordName (message : Message) : String := Naming.camel message.name ++ "Orm"

/-- The names of the join records of a message. -/
def joinNames (schema : Schema) (message : Message) : List String :=
  (message.fields.filter (·.isShared schema)).map (·.joinName message)

/-- The name of the hook trait of a message. -/
def hooksName (message : Message) : String := Naming.camel message.name ++ "Hooks"

/-- The names of the items of a message. -/
def itemNames (schema : Schema) (message : Message) : List String :=
  message.recordName :: message.joinNames schema ++ message.hooksName :: message.functionNames schema

/-! ### Functions of several messages -/

theorem affixes_sublist (schema : Schema) (message : Message) : (message.affixes schema).Sublist Affixes.all := by
  unfold affixes Affixes.all
  refine .cons_cons _ ?_
  split
  · refine .append_left ?_ _
    split
    · exact .refl _
    · exact List.nil_sublist _
  · exact List.nil_sublist _

theorem mem_affixes_of_operation {affixes : Affixes} (h : affixes ∈ Affixes.operations) :
    affixes ∈ message.affixes schema ↔ message.isKeyed = true := by
  have other : affixes ≠ Affixes.mask := fun same => absurd (same ▸ h) (by decide)
  unfold Message.affixes
  split
  · next keyed => simp [h, keyed]
  · next unkeyed => simp [other, unkeyed]

theorem mem_functionNames {affixes : Affixes} (h : affixes ∈ message.affixes schema) :
    affixes.around (Text.snakeCase message.name) ∈ message.functionNames schema :=
  List.mem_map_of_mem h

/-- The functions about messages have different names unless two messages share a spelling or one that has a key is
named as the set of another. -/
theorem functionNames_nodup_iff (schema : Schema) : (messages.flatMap (·.functionNames schema)).Nodup ↔
    (messages.map fun message => Text.snakeCase message.name).Nodup ∧
      ∀ one ∈ messages, ∀ other ∈ messages, one.isKeyed = true → other.isKeyed = true →
        ¬ Naming.IsSetOf (Text.snakeCase one.name) (Text.snakeCase other.name) := by
  rw [List.nodup_flatMap, List.Nodup, List.pairwise_map]
  constructor
  · rintro ⟨-, apart⟩
    refine ⟨apart.imp fun {one other} disjoint same => ?_, fun one there other inside one_keyed other_keyed set => ?_⟩
    · have merge (message : Message) : Affixes.mask.around (Text.snakeCase message.name) ∈
          message.functionNames schema := mem_functionNames List.mem_cons_self
      exact disjoint (merge one) (same ▸ merge other)
    · have different : one ≠ other := by
        rintro rfl
        exact Naming.not_isSetOf_self _ set
      have : Std.Symm (Function.onFun List.Disjoint (functionNames schema)) :=
        ⟨fun _ _ disjoint _ here there => disjoint there here⟩
      have disjoint := apart.forall there inside different
      have named {message : Message} (affixes : Affixes) (operation : affixes ∈ Affixes.operations)
          (keyed : message.isKeyed = true) :
          affixes.around (Text.snakeCase message.name) ∈ message.functionNames schema :=
        mem_functionNames ((mem_affixes_of_operation operation).mpr keyed)
      rcases set with same | same
      · refine disjoint (named ⟨"default_delete_", ""⟩ (by decide) one_keyed) ?_
        rw [Affixes.delete_eq_iff.mpr same]
        exact named _ (by decide) other_keyed
      · refine disjoint (named ⟨"default_patch_", ""⟩ (by decide) one_keyed) ?_
        rw [Affixes.patch_eq_iff.mpr same]
        exact named _ (by decide) other_keyed
  · rintro ⟨words, apart⟩
    have within (message : Message) := (affixes_sublist schema message).subset
    refine ⟨fun message _ => ?_, words.imp_of_mem fun {one other} there inside different => ?_⟩
    · have distinct : (message.affixes schema).Nodup := (affixes_sublist schema message).nodup (by decide)
      refine (List.nodup_map_iff_inj_on distinct).mpr fun first first_there second second_there same => ?_
      rcases Affixes.around_eq (within message first_there) (within message second_there) same with
        ⟨equal, -⟩ | ⟨-, -, set | set⟩
      · exact equal
      · exact absurd set (Naming.not_isSetOf_self _)
      · exact absurd set (Naming.not_isSetOf_self _)
    · intro text one_named other_named
      obtain ⟨first, first_there, rfl⟩ := List.mem_map.mp one_named
      obtain ⟨second, second_there, same⟩ := List.mem_map.mp other_named
      rcases Affixes.around_eq (within one first_there) (within other second_there) same.symm with
        ⟨-, equal⟩ | ⟨first_operation, second_operation, set⟩
      · exact different equal
      · have one_keyed := (mem_affixes_of_operation first_operation).mp first_there
        have other_keyed := (mem_affixes_of_operation second_operation).mp second_there
        rcases set with set | set
        · exact apart one there other inside one_keyed other_keyed set
        · exact apart other inside one there other_keyed one_keyed set

/-! ### All items of several messages -/

theorem nodup_map_camel (ending : String) : (messages.map fun message => Naming.camel message.name ++ ending).Nodup ↔
    (messages.map fun message => Text.camelCase message.name).Nodup := by
  simp only [List.Nodup, List.pairwise_map]
  refine List.Pairwise.iff fun one other => not_congr ?_
  rw [String.append_left_inj, Naming.camel_eq_iff]

theorem itemNames_perm (schema : Schema) (messages : List Message) : (messages.flatMap (·.itemNames schema)).Perm
    ((messages.map recordName ++ messages.flatMap (·.joinNames schema)) ++
      (messages.map hooksName ++ messages.flatMap (·.functionNames schema))) := by
  have records := List.flatMap_append_perm messages (fun message => [message.recordName]) (·.joinNames schema)
  have hooks := List.flatMap_append_perm messages (fun message => [message.hooksName]) (·.functionNames schema)
  rw [← List.map_eq_flatMap] at records hooks
  exact ((records.append hooks).trans (List.flatMap_append_perm messages _ _)).symm

theorem beginsLower_of_function (there : text ∈ message.functionNames schema) : Text.beginsLower text = true := by
  obtain ⟨affixes, inside, rfl⟩ := List.mem_map.mp there
  exact Affixes.beginsLower_around ((affixes_sublist schema message).subset inside)

theorem not_beginsLower_joinName (owner : Message) (field : Field) :
    Text.beginsLower (field.joinName owner) = false :=
  Text.not_beginsLower_append
    (Text.not_beginsLower_append (Naming.not_beginsLower_camel _) (Naming.not_beginsLower_camel _)) (by decide)

/-- Types have other names than functions, and records, join records and hooks have names that end differently. -/
theorem names_apart (schema : Schema) (one other : Message) :
    (∀ join ∈ one.joinNames schema, join ≠ other.recordName ∧ join ≠ other.hooksName) ∧
      one.recordName ≠ other.hooksName ∧ ∀ text ∈ one.functionNames schema, text ≠ other.recordName ∧
        text ≠ other.hooksName ∧ text ∉ other.joinNames schema := by
  have lower {text type : String} (there : text ∈ one.functionNames schema) (h : Text.beginsLower type = false) :
      text ≠ type := by
    rintro rfl
    exact Bool.false_ne_true (h.symm.trans (beginsLower_of_function there))
  refine ⟨fun join there => ?_, Text.append_ne (by decide) (by decide) (by decide) _ _, fun text there => ⟨?_, ?_, ?_⟩⟩
  · obtain ⟨field, -, rfl⟩ := List.mem_map.mp there
    exact ⟨Text.append_ne (by decide) (by decide) (by decide) _ _,
      Text.append_ne (by decide) (by decide) (by decide) _ _⟩
  · exact lower there (Text.not_beginsLower_append (Naming.not_beginsLower_camel _) (by decide))
  · exact lower there (Text.not_beginsLower_append (Naming.not_beginsLower_camel _) (by decide))
  · intro inside
    obtain ⟨field, -, same⟩ := List.mem_map.mp inside
    exact lower there (not_beginsLower_joinName other field) same.symm

/-- Messages give different names to all of their items exactly if their names and the names of their join records
are different and none that has a key is named as the set of another. -/
theorem names_nodup_iff : (messages.flatMap (·.itemNames schema)).Nodup ↔
    SpelledApart messages ∧ (messages.flatMap (·.joinNames schema)).Nodup ∧
      ∀ one ∈ messages, ∀ other ∈ messages, one.isKeyed = true → other.isKeyed = true →
        ¬ Naming.IsSetOf (Text.snakeCase one.name) (Text.snakeCase other.name) := by
  rw [(itemNames_perm schema messages).nodup_iff, List.nodup_append, List.nodup_append, List.nodup_append]
  constructor
  · rintro ⟨⟨records, joins, -⟩, ⟨-, functions, -⟩, -⟩
    obtain ⟨snake, sets⟩ := (functionNames_nodup_iff schema).mp functions
    exact ⟨⟨snake, (nodup_map_camel "Orm").mp records⟩, joins, sets⟩
  · rintro ⟨spelled, joins, sets⟩
    have records := (nodup_map_camel "Orm").mpr spelled.camel
    have hooks := (nodup_map_camel "Hooks").mpr spelled.camel
    have functions := (functionNames_nodup_iff schema).mpr ⟨spelled.snake, sets⟩
    have apart := names_apart schema
    refine ⟨⟨records, joins, ?_⟩, ⟨hooks, functions, ?_⟩, ?_⟩
    · rintro _ record _ join rfl
      obtain ⟨other, -, same⟩ := List.mem_map.mp record
      obtain ⟨one, -, join⟩ := List.mem_flatMap.mp join
      exact ((apart one other).1 _ join).1 same.symm
    · rintro _ hooks _ function rfl
      obtain ⟨other, -, same⟩ := List.mem_map.mp hooks
      obtain ⟨one, -, function⟩ := List.mem_flatMap.mp function
      exact ((apart one other).2.2 _ function).2.1 same.symm
    · rintro _ type _ rest rfl
      rcases List.mem_append.mp type with record | join <;> rcases List.mem_append.mp rest with hooks | function
      · obtain ⟨one, -, rfl⟩ := List.mem_map.mp record
        obtain ⟨other, -, same⟩ := List.mem_map.mp hooks
        exact (apart one other).2.1 same.symm
      · obtain ⟨other, -, same⟩ := List.mem_map.mp record
        obtain ⟨one, -, function⟩ := List.mem_flatMap.mp function
        exact ((apart one other).2.2 _ function).1 same.symm
      · obtain ⟨one, -, join⟩ := List.mem_flatMap.mp join
        obtain ⟨other, -, same⟩ := List.mem_map.mp hooks
        exact ((apart one other).1 _ join).2 same.symm
      · obtain ⟨other, -, join⟩ := List.mem_flatMap.mp join
        obtain ⟨one, -, function⟩ := List.mem_flatMap.mp function
        exact ((apart one other).2.2 _ function).2.2 join

end Message

end ProtoStore
