import Perimeter.Proofs.Lookup
import Perimeter.Proofs.Toml.Lines

/-!
# `Perimeter.Proofs.Toml.Filled`: the lines of a table fill it again

While a file is read, each line changes the tables that are there. A name with a value goes to
the table that the last header opened, wherever that is in the file, so the induction over the
members of a table is done once for all places (`fill_pairs`). A header under a new name opens a
table behind all others (`fills_table`), and the headers of elements open one table after the
other under the same name (`fills_tables`). `Fills` leaves open what the last header was, since
the next one replaces it.
-/

set_option autoImplicit false

namespace Perimeter.Toml

variable {name : String} {front inner root : Members} {node : Node} {header : Path}

namespace Members

theorem lookup_append (h : name ∉ front.map Prod.fst) :
    (front ++ [(name, node)]).lookup name = some node := by
  simp [List.lookup_append, Lookup.lookup_of_not_mem h]

theorem put_new (h : name ∉ front.map Prod.fst) :
    put name node front = front ++ [(name, node)] := by
  induction front with
  | nil => rfl
  | cons m front ih =>
    simp only [List.map_cons, List.mem_cons, not_or] at h
    rw [put, if_neg (fun heq => h.1 heq.symm), ih h.2]
    rfl

theorem put_last (old : Node) (h : name ∉ front.map Prod.fst) :
    put name node (front ++ [(name, old)]) = front ++ [(name, node)] := by
  induction front with
  | nil => simp [put]
  | cons m front ih =>
    simp only [List.map_cons, List.mem_cons, not_or] at h
    rw [List.cons_append, put, if_neg (fun heq => h.1 heq.symm), ih h.2]
    rfl

/-- A value under a new name comes after all others. -/
theorem insert_new (h : name ∉ front.map Prod.fst) (v : Value) :
    insert [name] v front = some (front ++ [(name, .value v)]) := by
  simp [insert, splitPath?, reach, add, Lookup.lookup_of_not_mem h]

/-- A header of a new name makes a table that comes after all others. -/
theorem define_new (h : name ∉ front.map Prod.fst) :
    define [name] front = some (front ++ [(name, .table .defined [])]) := by
  simp [define, splitPath?, reach, Lookup.lookup_of_not_mem h, put_new h]

theorem extend_new (h : name ∉ front.map Prod.fst) :
    extend [name] front = some (front ++ [(name, .tables [[]])]) := by
  simp [extend, splitPath?, reach, Lookup.lookup_of_not_mem h, put_new h]

theorem extend_last (h : name ∉ front.map Prod.fst) (elements : List Members) :
    extend [name] (front ++ [(name, .tables elements)]) =
      some (front ++ [(name, .tables (elements ++ [[]]))]) := by
  simp [extend, splitPath?, reach, lookup_append h, put_last _ h]

/-- A value goes into the table that the last header has made. -/
theorem insertUnder_table (h : name ∉ front.map Prod.fst) (path : Path) (v : Value) :
    insertUnder [name] path v (front ++ [(name, .table .defined inner)]) =
      (insert path v inner).map fun inner => front ++ [(name, .table .defined inner)] := by
  cases hinner : insert path v inner <;>
    simp [insertUnder, reach, lookup_append h, put_last _ h, hinner]

/-- A value goes into the element that the last header has made. -/
theorem insertUnder_tables (h : name ∉ front.map Prod.fst) (path : Path) (v : Value)
    (elements : List Members) :
    insertUnder [name] path v (front ++ [(name, .tables (elements ++ [inner]))]) =
      (insert path v inner).map fun inner => front ++ [(name, .tables (elements ++ [inner]))] := by
  cases hinner : insert path v inner <;>
    simp [insertUnder, reach, lookup_append h, put_last _ h, hinner]

end Members

open Members

/-- Values as they stand in a table while a file is read. -/
def valueNodes (members : Table) : Members := members.map fun m => (m.1, .value m.2)

/-- The lines of a table fill it, wherever values go that follow its header: `place` is all of the
file when the table is `inner`. -/
theorem fill_pairs (place : Members → Members) (inner : Members) (members : Table)
    (hplace : ∀ inner path v, (place inner).insertUnder header path v =
      (insert path v inner).map place)
    (hdistinct : (inner.map Prod.fst ++ members.map Prod.fst).Nodup) :
    (pairs members).foldlM Progress.step ⟨place inner, header⟩ =
      some ⟨place (inner ++ valueNodes members), header⟩ := by
  induction members generalizing inner with
  | nil => simp [pairs, valueNodes]
  | cons m members ih =>
    have hnew : m.1 ∉ inner.map Prod.fst := by
      intro hmem
      exact (List.nodup_append.mp hdistinct).2.2 m.1 hmem m.1 (List.mem_cons_self ..) rfl
    have hmore := ih (inner ++ [(m.1, .value m.2)]) (by simpa using hdistinct)
    have hstep : Progress.step ⟨place inner, header⟩ (.pair [m.1] m.2) =
        some ⟨place (inner ++ [(m.1, .value m.2)]), header⟩ := by
      simp [Progress.step, hplace, insert_new hnew]
    have hpairs : pairs (m :: members) = .pair [m.1] m.2 :: pairs members := rfl
    rw [hpairs, List.foldlM_cons, hstep]
    simpa [valueNodes] using hmore

/-- Lines take a file from some of its tables to others, whatever the last header was. -/
def Fills (root : Members) (lines : List Line) (root' : Members) : Prop :=
  ∀ header, ∃ header', lines.foldlM Progress.step ⟨root, header⟩ = some ⟨root', header'⟩

theorem fills_nil (root : Members) : Fills root [] root := fun header => ⟨header, rfl⟩

theorem Fills.append {root' root'' : Members} {lines lines' : List Line}
    (h : Fills root lines root') (h' : Fills root' lines' root'') :
    Fills root (lines ++ lines') root'' := by
  intro header
  obtain ⟨header', hlines⟩ := h header
  obtain ⟨header'', hlines'⟩ := h' header'
  exact ⟨header'', by rw [List.foldlM_append, hlines]; exact hlines'⟩

/-- The lines of a section fill its table. -/
theorem fills_table (hname : name ∉ root.map Prod.fst) {members : Table}
    (hdistinct : (members.map Prod.fst).Nodup) :
    Fills root (.header [name] :: pairs members)
      (root ++ [(name, .table .defined (valueNodes members))]) := by
  intro header
  have hfill := fill_pairs (fun inner => root ++ [(name, .table .defined inner)]) [] members
    (fun inner path v => insertUnder_table hname path v) (by simpa using hdistinct)
  refine ⟨[name], ?_⟩
  rw [List.foldlM_cons]
  simpa [Progress.step, define_new hname] using hfill

/-- The lines of an element fill its table, behind the elements before it. -/
theorem fills_element (hname : name ∉ root.map Prod.fst) {members : Table}
    (hdistinct : (members.map Prod.fst).Nodup) {before : Members} (elements : List Members)
    (hbefore : before.extend [name] = some (root ++ [(name, .tables (elements ++ [[]]))])) :
    Fills before (.element [name] :: pairs members)
      (root ++ [(name, .tables (elements ++ [valueNodes members]))]) := by
  intro header
  have hfill := fill_pairs (fun inner => root ++ [(name, .tables (elements ++ [inner]))]) [] members
    (fun inner path v => insertUnder_tables hname path v elements) (by simpa using hdistinct)
  refine ⟨[name], ?_⟩
  rw [List.foldlM_cons]
  simpa [Progress.step, hbefore] using hfill

theorem fills_elements (hname : name ∉ root.map Prod.fst) {tables : List Table}
    (hdistinct : ∀ t ∈ tables, (t.map Prod.fst).Nodup) (elements : List Members) :
    Fills (root ++ [(name, .tables elements)])
      (tables.flatMap fun members => .element [name] :: pairs members)
      (root ++ [(name, .tables (elements ++ tables.map valueNodes))]) := by
  induction tables generalizing elements with
  | nil => simpa using fills_nil _
  | cons members tables ih =>
    have hfirst := fills_element hname (hdistinct members (List.mem_cons_self ..)) elements
      (extend_last hname elements)
    have hmore := ih (fun t ht => hdistinct t (List.mem_cons_of_mem members ht))
      (elements ++ [valueNodes members])
    simpa using hfirst.append hmore

/-- The lines of a list of tables fill them, if there is one at least. -/
theorem fills_tables (hname : name ∉ root.map Prod.fst) {members : Table} {tables : List Table}
    (hdistinct : ∀ t ∈ members :: tables, (t.map Prod.fst).Nodup) :
    Fills root ((members :: tables).flatMap fun members => .element [name] :: pairs members)
      (root ++ [(name, .tables ((members :: tables).map valueNodes))]) := by
  have hfirst := fills_element hname (hdistinct members (List.mem_cons_self ..)) []
    (extend_new hname)
  have hmore := fills_elements hname (fun t ht => hdistinct t (List.mem_cons_of_mem members ht))
    [valueNodes members]
  simpa using hfirst.append hmore

theorem membersToTable_eq_map (members : Members) :
    membersToTable members = members.map fun m => (m.1, m.2.toValue) := by
  induction members with
  | nil => rfl
  | cons m members ih => rw [membersToTable, ih, List.map_cons]

theorem elementsToValues_eq_map (elements : List Members) :
    elementsToValues elements = elements.map fun members => .table (membersToTable members) := by
  induction elements with
  | nil => rfl
  | cons members elements ih => rw [elementsToValues, ih, List.map_cons]

theorem membersToTable_valueNodes (members : Table) :
    membersToTable (valueNodes members) = members := by
  rw [membersToTable_eq_map, valueNodes, List.map_map]
  exact List.map_id members

end Perimeter.Toml
