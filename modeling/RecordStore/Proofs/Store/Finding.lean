import RecordStore.Codec.Shouting
import RecordStore.Proofs.Memory.Upsert
import RecordStore.Proofs.Store.Writing

/-!
# Finding what was saved

A record is encoded property by property when it is saved, and a search encodes the one value that it
compares with. Both use the codec of the property, so a saved record is among those that a search for the
value of any of its properties finds (`Datastore.search_save`). The row that saving reads back is the one
that is found: it holds what was written in every column but the key, and there it holds an equal value.
-/

namespace RecordStore

/-! ## Codecs -/

/-- The built-in codecs, and the one that changes case. -/
def Codec.provided : List Codec := .shouting :: Codec.builtin

/-- No provided codec stores a value that is there as null. -/
theorem Codec.encode_ne_null {codec : Codec} (provided : codec ∈ Codec.provided) {value : Json}
    (present : value ≠ .null) : codec.encode value ≠ .null := by
  rcases List.mem_cons.1 provided with rfl | builtin
  · cases value <;> exact nofun
  · exact mt (Codec.encode_eq_null_iff builtin value).1 present

namespace CodecRegistry

/-- A registry of provided codecs, under whichever types. -/
structure IsProvided (registry : CodecRegistry) : Prop where
  codecs : ∀ entry ∈ registry.codecs, entry.2 ∈ Codec.provided
  fallback : registry.fallback ∈ Codec.provided

variable {registry : CodecRegistry}

theorem IsBuiltin.isProvided (builtin : registry.IsBuiltin) : registry.IsProvided where
  codecs entry member := List.mem_cons_of_mem _ (builtin.codecs entry member)
  fallback := List.mem_cons_of_mem _ builtin.fallback

theorem IsProvided.register (provided : registry.IsProvided) (type : PropertyType) {codec : Codec}
    (own : codec ∈ Codec.provided) : (registry.register type codec).IsProvided where
  codecs entry member := by
    rcases List.mem_cons.1 member with rfl | other
    · exact own
    · exact provided.codecs entry (List.mem_filter.1 other).1
  fallback := provided.fallback

/-- The key of a record is not stored as null. -/
theorem IsProvided.encodeKey_ne_null (provided : registry.IsProvided) (model : ModelDefinition)
    {key : Json} (present : key ≠ .null) : registry.encodeKey model key ≠ .null :=
  Codec.encode_ne_null (registry.codecFor_of_forall provided.codecs provided.fallback _) present

end CodecRegistry

namespace Datastore

variable {store : Datastore} {γ : Type}

/-! ## Searches for a value -/

theorem check_property {key : String} (named : key ≠ "") (value : Json) :
    (Search.all.property key value {}).check = .ok () := by
  have links : checkLinks (Search.all.property key value {}).tokens = .ok () := rfl
  have leaf : Token.checkAll (Search.all.property key value {}).tokens = .ok () := by
    simp [Search.property, Search.addToken, Search.all, Token.checkAll, Token.check, Leaf.key, named]
    rfl
  rw [Search.check, links, leaf]
  rfl

/-- The search for the value of a property says the column and what the codec of the property stores. -/
theorem command_property (store : Datastore) (model : ModelDefinition) {property : Property}
    (member : property ∈ model.properties) (value : Json) :
    Command.ofStatement? (store.statement
        (store.searchQuery model (Search.all.property property.name value {}))) =
      some (.select .rows (store.tableName model)
        [(.and, .equality property.name (store.codecs.encode property.type value))] [] none none) := by
  have conditions : (store.searchQuery model (Search.all.property property.name value {})).conditions =
      [(.and, .equality property.name (store.codecs.encode property.type value))] := by
    change [(Connector.and, Predicate.equality property.name
      (store.codecs.encodeProperty model property.name value))] = _
    rw [CodecRegistry.encodeProperty, model.property?_of_mem member]
  rw [command_searchQuery, selection, conditions, Predicate.writtenConditions_equality]
  rfl

/-! ## Saving -/

/-- A record that is read back is that of a row with its key. -/
theorem of_run_readBack {kind : CellKind γ} {database after : Database γ} {table : Table γ}
    {model : ModelDefinition} {key : Json} {saved : Record}
    (found : database.tables.lookup (store.tableName model) = some table)
    (ran : (store.readBack model key).run (Pool.ofCells kind) database = (.ok saved, after)) :
    after = database ∧ ∃ stored ∈ table.rows,
      table.satisfies kind [(.and, .equality model.key.name (store.codecs.encodeKey model key))] stored =
        true ∧
      store.codecs.decodeRecord model (table.toRow kind stored) = .ok saved := by
  have reread := Pool.answer_fetchOptional
    (Database.runStatement_of_lookup kind (store.command_keyQuery model key) found)
  rw [readBack, Program.run, reread] at ran
  cases first : (table.select kind
      [(.and, .equality model.key.name (store.codecs.encodeKey model key))] [] (some 1) none).head? with
  | none =>
    simp only [List.head?_map, first, Option.map_none, Program.run] at ran
    cases ran
  | some stored =>
    simp only [List.head?_map, first, Option.map_some, Program.run, Prod.mk.injEq] at ran
    obtain ⟨inTable, satisfied⟩ := Table.of_mem_select (List.mem_of_mem_head? first)
    exact ⟨ran.2.symm, stored, inTable, satisfied, ran.1⟩

/-- A save that succeeds has upserted the row of the record, and answers the record of a row that then
has its key. -/
theorem of_run_save {kind : CellKind γ} {database after : Database γ} {object : ModelInstance}
    {record saved : Record} (produced : object.record = .ok record)
    (ran : (store.save object).run (Pool.ofCells kind) database = (.ok saved, after)) :
    ∃ key table rows changed,
      object.primaryKey = .ok key ∧
      database.tables.lookup (store.tableName object.model) = some table ∧
      (∀ column ∈ object.model.columns, column ∈ table.columns) ∧
      object.model.key.name = table.key ∧
      table.insertRow kind
        (some ⟨object.model.key.name, object.model.columns.filter (· ≠ object.model.key.name)⟩)
        (table.rowOf kind object.model.columns
          ((store.codecs.encodeValues object.model record).map kind.ofStored)) table.rows =
        some (rows, changed) ∧
      after.tables.lookup (store.tableName object.model) = some { table with rows } ∧
      ∃ stored ∈ rows,
        table.satisfies kind
          [(.and, .equality object.model.key.name (store.codecs.encodeKey object.model key))] stored =
          true ∧
        store.codecs.decodeRecord object.model (table.toRow kind stored) = .ok saved := by
  cases keyed : object.primaryKey with
  | error error =>
    rw [store.save_of_error keyed] at ran
    cases ran
  | ok key =>
    rw [store.save_of_primaryKey produced keyed, Program.run] at ran
    cases upserted : database.runStatement kind
        (store.statement (store.upsertQuery object.model record)) with
    | error fault =>
      rw [Pool.answer_execute_of_error upserted] at ran
      cases ran
    | ok outcome =>
      obtain ⟨table, found, done⟩ :=
        Database.of_runStatement (store.command_upsertQuery object.model record) upserted
      obtain ⟨declared, own, rows, changed, inserted, left⟩ := Database.of_runOn_insert done
      rw [Pool.answer_execute upserted, left] at ran
      have there := Database.lookup_setRows found rows
      obtain ⟨rfl, stored⟩ := store.of_run_readBack there ran
      exact ⟨key, table, rows, changed, rfl, found, declared, own, inserted, there, stored⟩

/-! ## Searching -/

/-- A row of the table of a model that satisfies the equality of a property with a value is among those
that the search for the value finds. -/
theorem mem_records_of_satisfies {kind : CellKind γ} {database : Database γ} {table : Table γ}
    {model : ModelDefinition} (found : database.tables.lookup (store.tableName model) = some table)
    {property : Property} (member : property ∈ model.properties) (named : property.name ≠ "")
    {value : Json} {stored : List γ} (inTable : stored ∈ table.rows)
    (satisfied : table.satisfies kind
      [(.and, .equality property.name (store.codecs.encode property.type value))] stored = true)
    {record : Record} (decoded : store.codecs.decodeRecord model (table.toRow kind stored) = .ok record) :
    ∃ result, ((store.search model (Search.all.property property.name value {})).run
        (Pool.ofCells kind) database).1 = .ok result ∧ record ∈ result.records := by
  have answered := Pool.answer_fetchAll
    (Database.runStatement_of_lookup kind (store.command_property model member value) found)
  have selected : stored ∈ table.select kind
      [(.and, .equality property.name (store.codecs.encode property.type value))] [] none none :=
    List.mem_filter.2 ⟨inTable, satisfied⟩
  rw [store.search_eq_call model (check_property named value), Program.run, answered]
  refine ⟨_, rfl, List.mem_filterMap.2 ⟨_, List.mem_map_of_mem selected, ?_⟩⟩
  rw [readable, decoded]
  rfl

/-- The row of a record that is inserted holds what the codec of each property stores. -/
theorem cell_encodeValues (order : StoredValue → StoredValue → Ordering)
    (like likeAnyCase : StoredValue → StoredValue → Bool) {table : Table StoredValue}
    (model : ModelDefinition) (record : Record) {property : Property}
    (member : property ∈ model.properties) (declared : property.name ∈ table.columns) :
    table.cell (.kept order like likeAnyCase) (table.rowOf (.kept order like likeAnyCase) model.columns
        ((store.codecs.encodeValues model record).map
          (CellKind.kept order like likeAnyCase).ofStored)) property.name =
      store.codecs.encode property.type (record.value property.name) := by
  have kept : (store.codecs.encodeValues model record).map
      (CellKind.kept order like likeAnyCase).ofStored = store.codecs.encodeValues model record :=
    List.map_id _
  rw [Table.cell_rowOf _ _ declared, kept]
  exact store.codecs.value_encodeRecord model record member

/-- A record that was saved is found by the value of any of its properties that has a name, null where
the record lacks it. The store keeps values as they are bound and compares them by an equality. -/
theorem search_save (provided : store.codecs.IsProvided)
    {order : StoredValue → StoredValue → Ordering} {like likeAnyCase : StoredValue → StoredValue → Bool}
    (reflexive : ∀ value, order value value = .eq)
    (symmetric : ∀ left right, order left right = .eq → order right left = .eq)
    {object : ModelInstance} {database after : Database StoredValue} {record saved : Record}
    (produced : object.record = .ok record)
    (ran : (store.save object).run (Pool.ofCells (.kept order like likeAnyCase)) database =
      (.ok saved, after))
    {property : Property} (member : property ∈ object.model.properties) (named : property.name ≠ "") :
    ∃ result, ((store.search object.model
          (Search.all.property property.name (record.value property.name) {})).run
        (Pool.ofCells (.kept order like likeAnyCase)) after).1 = .ok result ∧ saved ∈ result.records := by
  obtain ⟨key, table, rows, changed, keyed, -, declared, own, inserted, there, stored, inTable,
    satisfied, decoded⟩ := store.of_run_save produced ran
  obtain ⟨_, again, rfl, present⟩ := ModelInstance.primaryKey_eq_ok_iff.1 keyed
  obtain rfl : record = _ := Except.ok.inj (produced.symm.trans again)
  refine mem_records_of_satisfies there member named inTable ?_ decoded
  have columns {property : Property} (member : property ∈ object.model.properties) :
      property.name ∈ table.columns := declared _ (List.mem_map_of_mem member)
  -- The key column may hold what it held before, but the row was looked up by that column.
  by_cases isKey : property.name = object.model.key.name
  · have only : property = object.model.key := Option.some.inj
      ((object.model.property?_of_mem member).symm.trans
        (isKey ▸ object.model.property?_of_mem object.model.key_mem))
    rw [only]
    exact satisfied
  · have key := store.cell_encodeValues order like likeAnyCase object.model record object.model.key_mem
      (columns object.model.key_mem)
    have merged : property.name ∈ object.model.columns.filter (· ≠ object.model.key.name) := by
      simpa using ⟨List.mem_map_of_mem member, isKey⟩
    have keyed := provided.encodeKey_ne_null object.model present
    rw [own] at key keyed satisfied
    have same := Table.sameKey_of_satisfies symmetric key keyed satisfied
    refine Table.satisfies_of_cell reflexive ?_
    rw [← store.cell_encodeValues order like likeAnyCase object.model record member (columns member)]
    exact Table.cell_of_insertRow inserted inTable same (columns member) merged

/-- A note whose text is stored in lower case and read in upper case, and whose title, which is missing,
is stored as the word for null. It takes the place of another with the same key. -/
theorem search_save_shouted :
    let model : ModelDefinition := ⟨"Note", [⟨"id", .uniqueId, true⟩, ⟨"text", .text, true⟩,
      ⟨"title", .text, true⟩, ⟨"size", .integer, true⟩], ⟨0, by decide⟩, by decide, by decide⟩
    let store : Datastore := ⟨.sqlite, { codecs := CodecRegistry.default.register .text .shouting }⟩
    let kind := CellKind.kept (fun left right => Cell.order (.ofStored left) (.ofStored right))
      (fun left right => Cell.like (.ofStored left) (.ofStored right))
      (fun left right => Cell.like (.ofStored left) (.ofStored right))
    let object : ModelInstance := ⟨model, .ok [("id", .string "a"), ("text", .string "Hi")]⟩
    let saved : Record :=
      [("id", .string "a"), ("size", .null), ("text", .string "HI"), ("title", .string "NULL")]
    let databaseOf (row : List StoredValue) : Database StoredValue :=
      { tables := [(store.tableName model, ⟨model.columns, "id", [row]⟩)] }
    let before := databaseOf [.string "a", .string "old", .null, .integer 1]
    let after := databaseOf [.string "a", .string "hi", .string "null", .null]
    (store.save object).run (Pool.ofCells kind) before = (.ok saved, after) ∧
      ∃ result, ((store.search model (Search.all.property "title" .null {})).run
        (Pool.ofCells kind) after).1 = .ok result ∧ saved ∈ result.records := by
  intro model store kind object saved databaseOf before after
  have produced : object.record = .ok [("id", .string "a"), ("text", .string "Hi")] := rfl
  have there : before.tables.lookup (store.tableName model) = some _ := List.lookup_cons_self
  have behind : after.tables.lookup (store.tableName model) = some _ := List.lookup_cons_self
  have upserted : before.runStatement kind
      (store.statement (store.upsertQuery model [("id", .string "a"), ("text", .string "Hi")])) =
      .ok ⟨[], 1, after⟩ := by
    rw [Database.runStatement_of_lookup kind (store.command_upsertQuery model _) there]
    dsimp only [kind, before, after, databaseOf, store, model]
    rfl
  have reread := Pool.answer_fetchOptional
    (Database.runStatement_of_lookup kind (store.command_keyQuery model (.string "a")) behind)
  have ran : (store.save object).run (Pool.ofCells kind) before = (.ok saved, after) := by
    have keyed : object.primaryKey = .ok (.string "a") := rfl
    rw [store.save_of_primaryKey produced keyed, Program.run, Pool.answer_execute upserted, readBack,
      Program.run, reread]
    dsimp only [kind, saved, after, databaseOf, object, store, model]
    rfl
  have provided : store.codecs.IsProvided :=
    CodecRegistry.isBuiltin_default.isProvided.register .text List.mem_cons_self
  have title : (⟨"title", .text, true⟩ : Property) ∈ object.model.properties := by simp [object, model]
  have missing : Record.value [("id", .string "a"), ("text", .string "Hi")]
      (⟨"title", .text, true⟩ : Property).name = .null := rfl
  have found := search_save provided (fun _ => Cell.order_self _) (fun _ _ => Cell.order_eq_symm)
    produced ran title (by decide)
  rw [missing] at found
  exact ⟨ran, found⟩

end Datastore

end RecordStore
