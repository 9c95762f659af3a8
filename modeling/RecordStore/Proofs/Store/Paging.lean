import Mathlib.Algebra.Order.Floor.Div
import RecordStore.Proofs.Memory.Answers
import RecordStore.Proofs.Store.Operations

/-!
# Paging

A search with a limit answers one page of rows and a token, the number of rows before the next one as a
word, which is the page to ask for next. A walk repeats a search in this way (`Datastore.walk`).

The token counts the rows that were fetched and not the records that could be read, so a walk visits
every row once (`Datastore.walk_visits_once`). What carries the induction is that a call for the rows
after those of the pages before names the end of its own page (`Datastore.search_atPage`).
-/

namespace RecordStore

/-! ## Fetched rows -/

/-- The rows that a call fetched. -/
def Exchange.fetched : Exchange → List StoredRow
  | ⟨.fetchAll _, .ok rows⟩ => rows
  | _ => []

/-- The rows that a program fetches, call by call. -/
def Program.fetched {σ α : Type} (pool : Pool σ) (state : σ) (program : Program α) :
    List (List StoredRow) :=
  (program.exchanges pool state).map Exchange.fetched

theorem Program.fetched_bind_of_ok {σ α β : Type} {pool : Pool σ} {state after : σ}
    {program : Program α} {result : α} (ran : program.run pool state = (.ok result, after))
    (next : α → Program β) :
    (program >>= next).fetched pool state =
      program.fetched pool state ++ (next result).fetched pool after := by
  rw [fetched, exchanges_bind_of_ok ran, List.map_append]
  rfl

/-- A store that has `rows` for a selection as long as its state is `stable`: it answers a statement that
says the selection with a limit and an offset with so many of the rows from there on. -/
def Pool.Pages {σ : Type} (pool : Pool σ) (stable : σ → Prop)
    (selection : (limit offset : Option Nat) → Command) (rows : List StoredRow) : Prop :=
  ∀ state, stable state → ∀ statement limit offset,
    Command.ofStatement? statement = some (selection (some limit) offset) →
    ∃ after, stable after ∧ pool.answer state (.fetchAll statement) =
      (.ok ((rows.drop (offset.getD 0)).take limit), after)

/-- A store in memory has the rows of a table that satisfy conditions, in order. -/
theorem Pool.pages_ofCells {γ : Type} (kind : CellKind γ) {database : Database γ} {name : String}
    {table : Table γ} (found : database.tables.lookup name = some table) (conditions : List Condition)
    (order : List (String × Direction)) :
    (Pool.ofCells kind).Pages (· = database)
      (fun limit offset => .select .rows name conditions order limit offset)
      ((table.select kind conditions order none none).map (table.toRow kind)) := by
  rintro _ rfl statement limit offset said
  have ran := Database.runStatement_of_lookup kind said found
  refine ⟨_, rfl, (Pool.answer_fetchAll ran).trans ?_⟩
  rw [← List.map_drop, ← List.map_take]
  rfl

/-! ## Pages of a list -/

section Pages

variable {α : Type} (rows : List α) (count : Nat)

/-- The page with a number, counted from zero, of rows that are cut into pages. -/
def pageOf (number : Nat) : List α := (rows.drop (number * count)).take count

/-- The number of rows on the pages before one. -/
def rowsBefore (number : Nat) : Nat := min (number * count) rows.length

/-- A page has the rows after those of the pages before. Behind the last page there are none. -/
theorem take_drop_rowsBefore (number : Nat) :
    (rows.drop (rowsBefore rows count number)).take count = pageOf rows count number := by
  rw [pageOf, rowsBefore]
  rcases Nat.le_total (number * count) rows.length with inside | beyond
  · rw [Nat.min_eq_left inside]
  · rw [Nat.min_eq_right beyond, List.drop_length, List.drop_eq_nil_of_le beyond]

theorem rowsBefore_succ (number : Nat) :
    rowsBefore rows count (number + 1) =
      rowsBefore rows count number + (pageOf rows count number).length := by
  rw [rowsBefore, rowsBefore, pageOf, List.length_take, List.length_drop, Nat.succ_mul]
  omega

theorem rowsBefore_of_le {number : Nat} (beyond : rows.length ≤ number * count) :
    rowsBefore rows count number = rows.length := Nat.min_eq_right beyond

theorem pageOf_of_le {number : Nat} (beyond : rows.length ≤ number * count) :
    pageOf rows count number = [] := by
  rw [pageOf, List.drop_eq_nil_of_le beyond, List.take_nil]

/-- The pages one after the other are the rows. -/
theorem flatten_pages (calls : Nat) :
    ((List.range calls).map (pageOf rows count)).flatten = rows.take (calls * count) := by
  induction calls with
  | zero => rw [Nat.zero_mul, List.take_zero]; rfl
  | succ calls ih =>
    rw [List.range_succ, List.map_append, List.flatten_append, ih, Nat.succ_mul, List.take_add]
    exact congrArg _ (List.append_nil _)

end Pages

namespace Datastore

variable (store : Datastore) (model : ModelDefinition)

/-- The search from a page on. -/
def atPage (search : Search) (page : Option UInt64) : Search := { search with page }

/-- Repeats a search, each time with the page that the last result names. -/
def walk (search : Search) : (calls : Nat) → (page : Option UInt64) → Program (List SearchResult)
  | 0, _ => pure []
  | calls + 1, page => do
    let result ← store.search model (atPage search page)
    let others ← walk search calls result.next
    return result :: others

/-- The result for a page of rows. -/
def pageResult (rows : List StoredRow) (count number : Nat) : SearchResult where
  records := (pageOf rows count number).filterMap (store.readable model)
  next := some (UInt64.ofNat (rowsBefore rows count (number + 1)))

/-- The token of a page tells the number of rows up to its end, if a word can tell it. -/
theorem page_pageResult {rows : List StoredRow} (fits : rows.length < UInt64.size) (count number : Nat) :
    (store.pageResult model rows count number).page = some (rowsBefore rows count (number + 1)) := by
  have within : rowsBefore rows count (number + 1) < UInt64.size :=
    Nat.lt_of_le_of_lt (Nat.min_le_right _ _) fits
  exact congrArg some (UInt64.toNat_ofNat_of_lt' within)

/-- A page that is zero asks for the same rows as none. -/
theorem getD_positiveCount (page : Option UInt64) : (positiveCount page).getD 0 = page.getD 0 := by
  cases page with
  | none => rfl
  | some place =>
    by_cases zero : place = 0
    · subst zero
      rfl
    · simp [positiveCount, Option.filter_some, zero]

section Walk

variable {store model} {σ : Type} {pool : Pool σ} {stable : σ → Prop} {search : Search} {count : UInt64}
  {rows : List StoredRow} (accepted : search.check = .ok ()) (limited : search.take = some count)
  (positive : count ≠ 0) (serves : pool.Pages stable (store.selection model search) rows)
  (fits : rows.length < UInt64.size)

include accepted limited positive serves

/-- A call for the rows after those of the pages before answers the readable records of its page, and
names the end of its page. -/
theorem search_atPage {state : σ} (start : stable state) {page : Option UInt64} {number : Nat}
    (place : (page.getD 0).toNat = rowsBefore rows count.toNat number) :
    ∃ after, stable after ∧
      (store.search model (atPage search page)).run pool state =
        (.ok (store.pageResult model rows count.toNat number), after) ∧
      (store.search model (atPage search page)).fetched pool state = [pageOf rows count.toNat number] := by
  have offset : ((positiveCount (atPage search page).page).map UInt64.toNat).getD 0 =
      rowsBefore rows count.toNat number := by
    rw [← place, ← getD_positiveCount]
    exact Option.getD_map UInt64.toNat 0 (positiveCount page)
  -- words are added as words, so the token is that of the sum without a bound on the rows
  have token : (positiveCount (atPage search page).page).getD 0 +
      UInt64.ofNat (pageOf rows count.toNat number).length =
        UInt64.ofNat (rowsBefore rows count.toNat (number + 1)) := by
    rw [rowsBefore_succ, UInt64.ofNat_add, ← place, UInt64.ofNat_toNat]
    exact congrArg (· + _) (getD_positiveCount page)
  have limit : positiveCount (atPage search page).take = some count := by
    simp [atPage, limited, positiveCount, Option.filter_some, positive]
  have paginated : (store.searchQuery model (atPage search page)).isPaginated = true := by
    simp [searchQuery, Search.query, Query.isPaginated, limit]
  have said := store.command_searchQuery model (atPage search page)
  rw [limit] at said
  obtain ⟨after, holds, answered⟩ := serves state start _ _ _ said
  rw [offset, take_drop_rowsBefore] at answered
  have valid : (atPage search page).check = .ok () := accepted
  refine ⟨after, holds, ?_, ?_⟩
  · rw [store.search_eq_call model valid, Program.run, answered]
    simp only [Program.run, paginated, if_true, token]
    rfl
  · rw [store.search_eq_call model valid, Program.fetched, Program.exchanges, answered]
    rfl

include fits in
/-- A walk that begins after some pages answers the results of the pages from there on. -/
theorem walk_from (calls : Nat) {state : σ} (start : stable state) {page : Option UInt64} {first : Nat}
    (place : (page.getD 0).toNat = rowsBefore rows count.toNat first) :
    ∃ after, (store.walk model search calls page).run pool state =
        (.ok ((List.range' first calls).map (store.pageResult model rows count.toNat)), after) ∧
      (store.walk model search calls page).fetched pool state =
        (List.range' first calls).map (pageOf rows count.toNat) := by
  induction calls generalizing state page first with
  | zero => exact ⟨state, rfl, rfl⟩
  | succ calls ih =>
    obtain ⟨middle, holds, ran, fetched⟩ :=
      search_atPage accepted limited positive serves start place
    -- the token that a call answers is the place where the next call begins
    have next : ((store.pageResult model rows count.toNat first).next.getD 0).toNat =
        rowsBefore rows count.toNat (first + 1) :=
      Option.some.inj (store.page_pageResult model fits count.toNat first)
    obtain ⟨after, others, later⟩ := ih holds next
    refine ⟨after, ?_, ?_⟩
    · rw [walk, Program.run_bind_of_ok ran, Program.run_bind_of_ok others]
      rfl
    · rw [walk, Program.fetched_bind_of_ok ran, fetched, Program.fetched_bind_of_ok others, later]
      exact congrArg (List.cons _) (List.append_nil _)

end Walk

theorem records_pageResults (rows : List StoredRow) (count calls : Nat) :
    ((List.range calls).map (store.pageResult model rows count)).flatMap SearchResult.records =
      (rows.take (calls * count)).filterMap (store.readable model) := by
  rw [← flatten_pages, List.filterMap_flatten, List.flatMap_map, List.map_map, List.flatMap_def]
  rfl

/-- The walk through the pages of a search visits every row once: page after page it fetches the rows in
order, and answers those that can be read. Every result names the number of rows fetched so far. It is
the number of all rows after as many calls as there are pages, and calls from then on answer no records.

The page of a search is a word, so there must be no more rows than a word can count. -/
theorem walk_visits_once {store : Datastore} {model : ModelDefinition} {σ : Type} {pool : Pool σ}
    {stable : σ → Prop} {search : Search} {count : UInt64} {rows : List StoredRow}
    (accepted : search.check = .ok ()) (limited : search.take = some count) (positive : count ≠ 0)
    (serves : pool.Pages stable (store.selection model search) rows)
    (fits : rows.length < UInt64.size) {state : σ} (start : stable state) (calls : Nat) :
    ∃ results, ((store.walk model search calls none).run pool state).1 = .ok results ∧
      results.length = calls ∧
      (store.walk model search calls none).fetched pool state =
        (List.range calls).map (pageOf rows count.toNat) ∧
      ((store.walk model search calls none).fetched pool state).flatten =
        rows.take (calls * count.toNat) ∧
      results.flatMap SearchResult.records =
        (rows.take (calls * count.toNat)).filterMap (store.readable model) ∧
      (rows.length ⌈/⌉ count.toNat ≤ calls →
        results.flatMap SearchResult.records = rows.filterMap (store.readable model)) ∧
      ∀ number result, results[number]? = some result →
        result.page = some
          (((store.walk model search calls none).fetched pool state).take (number + 1)).flatten.length ∧
        (rows.length ⌈/⌉ count.toNat ≤ number + 1 → result.page = some rows.length) ∧
        (rows.length ⌈/⌉ count.toNat ≤ number → result.records = []) := by
  have first : ((none : Option UInt64).getD 0).toNat = rowsBefore rows count.toNat 0 := by
    simp [rowsBefore]
  obtain ⟨after, ran, fetched⟩ := walk_from accepted limited positive serves fits calls start first
  rw [← List.range_eq_range'] at ran fetched
  have records := store.records_pageResults model rows count.toNat calls
  have enough {number : Nat} (reached : rows.length ⌈/⌉ count.toNat ≤ number) :
      rows.length ≤ number * count.toNat := by
    have some_ : 0 < count.toNat := by
      rw [Nat.pos_iff_ne_zero]
      exact fun zero => positive (UInt64.toNat_inj.1 zero)
    rw [Nat.mul_comm]
    exact (ceilDiv_le_iff_le_mul some_).1 reached
  rw [ran, fetched]
  refine ⟨_, rfl, by rw [List.length_map, List.length_range], rfl,
    flatten_pages rows count.toNat calls, records, fun reached => ?_, fun number result found => ?_⟩
  · rw [records, List.take_of_length_le (enough reached)]
  · rw [List.getElem?_map, Option.map_eq_some_iff] at found
    obtain ⟨index, inside, rfl⟩ := found
    obtain ⟨within, rfl⟩ := List.getElem?_eq_some_iff.1 inside
    rw [List.length_range] at within
    rw [List.getElem_range]
    have page := store.page_pageResult model fits count.toNat number
    refine ⟨?_, fun reached => ?_, fun reached => ?_⟩
    · rw [page, ← List.map_take, List.take_range, Nat.min_eq_left within, flatten_pages,
        List.length_take]
      rfl
    · rw [page, rowsBefore_of_le rows count.toNat (enough reached)]
    · rw [pageResult, pageOf_of_le rows count.toNat (enough reached)]
      rfl

/-- A page with a row that cannot be read names its end all the same, and the last page names its end
again and again. -/
theorem walk_visits_once_unreadable :
    let model : ModelDefinition := ⟨"Note", [⟨"id", .uniqueId, true⟩, ⟨"size", .integer, true⟩],
      ⟨0, by decide⟩, by decide, by decide⟩
    let store : Datastore := ⟨.sqlite, {}⟩
    let database : Database Cell := { tables := [(store.tableName model, ⟨["id", "size"], "id",
      [[.text "a", .integer 1], [.text "b", .text "x"], [.text "c", .integer 3]]⟩)] }
    let search : Search := { tokens := [], take := some 2 }
    ∃ results, ((store.walk model search 4 none).run Pool.memory database).1 = .ok results ∧
      results.flatMap SearchResult.records =
        [[("id", .string "a"), ("size", .number (.integer 1 (by decide)))],
          [("id", .string "c"), ("size", .number (.integer 3 (by decide)))]] ∧
      (∀ result, results[0]? = some result → result.page = some 2) ∧
      ∀ result, results[3]? = some result → result.page = some 3 ∧ result.records = [] := by
  intro model store database search
  have found : database.tables.lookup (store.tableName model) = some _ := List.lookup_cons_self
  have serves : Pool.memory.Pages (· = database) (store.selection model search) _ :=
    Pool.pages_ofCells Cell.kind found [] []
  have accepted : search.check = .ok () := rfl
  obtain ⟨results, ran, -, fetched, -, -, records, pages⟩ :=
    walk_visits_once accepted rfl (by decide) serves (by decide) rfl 4
  rw [fetched] at pages
  refine ⟨results, ran, (records (by decide)).trans (by rfl), fun result here => ?_,
    fun result here => ?_⟩
  · exact (pages 0 result here).1.trans (by rfl)
  · obtain ⟨-, last, nothing⟩ := pages 3 result here
    exact ⟨last (by decide), nothing (by decide)⟩

end Datastore

end RecordStore
