import Mathlib.Data.List.Forall2
import Perimeter.Proofs.Toml.Filled

/-!
# `Perimeter.Proofs.Toml.Document`: a file is read as it was written

A file has values on lines, sections, and lists of sections (`Value.IsEntry`). All values on lines
are written first, since they would belong to a section otherwise. So a file is read with its
members in another order (`parse?_write`), but no name stands twice, and each name has the value
that was written under it (`exists_parse?_write`).

The lines of a file are named by `fileLines`. What is written spells them (`reads_write`), and
they fill a file whose tables stand for the members (`fill_file`).
-/

set_option autoImplicit false

namespace Perimeter.Toml

open Digits

variable {name : String} {v : Value}

/-! ### Files -/

/-- A value of a file: one that stands on a line, a section, or sections under one header. -/
inductive Value.IsEntry : Value → Prop
  | plain {v : Value} (h : v.IsPlain) : IsEntry v
  | table {members : Table} (h : IsSection members) : IsEntry (.table members)
  | tables {first : Table} {more : List Table} (h : ∀ members ∈ first :: more, IsSection members) :
    IsEntry (.array ((first :: more).map .table))

/-- A table whose members are those of a section. -/
def Value.IsSection (v : Value) : Prop := ∃ members, v = .table members ∧ Toml.IsSection members

/-- Tables in a list are sections, if there are any. -/
theorem isEntry_of_tables {vs : List Value} (h : ∀ v ∈ vs, v.IsSection) :
    (Value.array vs).IsEntry := by
  have htables : ∃ tables : List Table,
      vs = tables.map .table ∧ ∀ t ∈ tables, Toml.IsSection t := by
    induction vs with
    | nil => exact ⟨[], rfl, by simp⟩
    | cons v vs ih =>
      obtain ⟨t, rfl, ht⟩ := h v (List.mem_cons_self ..)
      obtain ⟨tables, rfl, htables⟩ := ih fun w hw => h w (List.mem_cons_of_mem _ hw)
      exact ⟨t :: tables, rfl, by simpa using ⟨ht, htables⟩⟩
  obtain ⟨tables, rfl, hsections⟩ := htables
  cases tables with
  | nil => exact .plain (.inr ⟨[], rfl, by simp⟩)
  | cons first more => exact .tables hsections

/-- The members of a file: all names are different and bare. -/
structure IsFile (file : Table) : Prop where
  bare : ∀ m ∈ file, isBareName m.1
  distinct : (file.map Prod.fst).Nodup
  entries : ∀ m ∈ file, m.2.IsEntry

/-- Whether a value stands on a line. -/
def Value.isLine : Value → Bool
  | .table _ => false
  | .array items => (tablesOf? items).isNone
  | _ => true

/-- The lines of the sections of a value. -/
def sectionLines (name : String) : Value → List (List Line)
  | .table members => [.header [name] :: pairs members]
  | .array items => ((tablesOf? items).getD []).map fun members => .element [name] :: pairs members
  | _ => []

/-- The values on lines, and the others behind them. -/
def inOrder (file : Table) : Table := file.filter (·.2.isLine) ++ file.filter (!·.2.isLine)

/-- The lines of a file. -/
def fileLines (file : Table) : List Line :=
  pairs (file.filter (·.2.isLine)) ++
    ((file.filter (!·.2.isLine)).flatMap fun m => sectionLines m.1 m.2).flatten

theorem tablesOf?_tables (first : Table) (more : List Table) :
    tablesOf? ((first :: more).map .table) = some (first :: more) := by
  induction more generalizing first with
  | nil => rfl
  | cons second more ih =>
    have hmore := ih second
    simp only [List.map_cons, tablesOf?, List.isEmpty_cons, Bool.false_eq_true, if_false] at hmore ⊢
    rw [List.mapM_cons, hmore]
    rfl

theorem tablesOf?_scalars {items : List Value} (h : ∀ item ∈ items, item.IsScalar) :
    tablesOf? items = none := by
  cases items with
  | nil => rfl
  | cons item items =>
    have hitem := h item (List.mem_cons_self ..)
    cases item <;> first | exact hitem.elim | simp [tablesOf?, List.mapM_cons]

theorem Value.IsPlain.isLine (h : v.IsPlain) : v.isLine := by
  rcases h with hscalar | ⟨items, rfl, hitems⟩
  · cases v <;> first | exact hscalar.elim | rfl
  · simp [Value.isLine, tablesOf?_scalars hitems]

/-! ### What is written -/

/-- A text is read as lines, and does not begin with the mark that opens a file. -/
def Reads (text : String) (lines : List Line) : Prop :=
  Spells text.toList lines ∧ Stops (· = startMark) text.toList

theorem reads_header (hname : isBareName name) {members : Table} (h : IsSection members) :
    Reads ("[" ++ written name ++ "]\n" ++ body members) (.header [name] :: pairs members) := by
  refine ⟨spells_header hname h, ?_⟩
  simp only [String.toList_append]
  exact stops_cons (by decide)

theorem reads_element (hname : isBareName name) {members : Table} (h : IsSection members) :
    Reads ("[[" ++ written name ++ "]]\n" ++ body members) (.element [name] :: pairs members) := by
  refine ⟨spells_element hname h, ?_⟩
  simp only [String.toList_append]
  exact stops_cons (by decide)

/-- A value stands on a line, or its block is read as its sections. -/
theorem block_cases (hname : isBareName name) (h : v.IsEntry) :
    (v.isLine ∧ v.IsPlain ∧ block name v = .line (pairLine name v)) ∨
      (v.isLine = false ∧ ∃ texts, block name v = .sections texts ∧
        List.Forall₂ Reads texts (sectionLines name v)) := by
  cases h with
  | plain h =>
    refine .inl ⟨h.isLine, h, ?_⟩
    rcases h with hscalar | ⟨items, rfl, hitems⟩
    · cases v <;> first | exact hscalar.elim | rfl
    · simp [block, tablesOf?_scalars hitems]
  | table h => exact .inr ⟨rfl, _, rfl, .cons (reads_header hname h) .nil⟩
  | @tables first more h =>
    have htables := tablesOf?_tables first more
    have hblock : block name (.array ((first :: more).map .table)) = .sections
        ((first :: more).map fun members => "[[" ++ written name ++ "]]\n" ++ body members) := by
      simp only [block, htables]
    refine .inr ⟨by simp only [Value.isLine, htables]; rfl, _, hblock, ?_⟩
    rw [sectionLines, htables, Option.getD_some, List.forall₂_map_left_iff,
      List.forall₂_map_right_iff, List.forall₂_same]
    exact fun members hmembers => reads_element hname (h members hmembers)

theorem Reads.append {text text' : String} {lines lines' : List Line} (h : Reads text lines)
    (h' : Reads text' lines') : Reads (text ++ text') (lines ++ lines') := by
  refine ⟨?_, ?_⟩
  · rw [String.toList_append]
    exact h.1.append h'.1
  · rw [String.toList_append]
    exact h.2.append h'.2

theorem reads_blank : Reads "\n" [] := ⟨spells_blank, stops_cons (by decide)⟩

theorem stops_body {members : Table} (h : ∀ m ∈ members, isBareName m.1) :
    Stops (· = startMark) (body members).toList := by
  cases members with
  | nil => exact stops_nil
  | cons m members =>
    have hname := h m (List.mem_cons_self ..)
    obtain ⟨c, more, hchars, hc⟩ := exists_bare hname
    have hbody : body (m :: members) = pairLine m.1 m.2 ++ body members := by simp [body]
    rw [hbody, String.toList_append, toList_pairLine hname, hchars]
    exact stops_cons (by simpa using (isBare_spec hc).2.2.2.2.2.2.1)

/-- Texts with empty lines between them are read one after the other. -/
theorem reads_intercalate {texts : List String} {lines : List (List Line)}
    (h : List.Forall₂ Reads texts lines) : Reads ("\n".intercalate texts) lines.flatten := by
  induction h with
  | nil => exact ⟨spells_nil, stops_nil⟩
  | @cons text ls texts lines hfirst hrest ih =>
    cases hrest with
    | nil => simpa using hfirst
    | cons hsecond hmore =>
      rw [String.intercalate_cons_cons]
      have hboth := (hfirst.append reads_blank).append ih
      simpa using hboth

/-- The blocks of a file: its lines, and its sections. -/
theorem blocks_cases {file : Table} (hbare : ∀ m ∈ file, isBareName m.1)
    (hentries : ∀ m ∈ file, m.2.IsEntry) :
    ((file.map fun m => block m.1 m.2).filterMap fun
      | .line text => some text
      | .sections _ => none) = (file.filter (·.2.isLine)).map (fun m => pairLine m.1 m.2) ∧
    List.Forall₂ Reads ((file.map fun m => block m.1 m.2).flatMap fun
      | .line _ => []
      | .sections texts => texts)
      ((file.filter (!·.2.isLine)).flatMap fun m => sectionLines m.1 m.2) := by
  induction file with
  | nil => exact ⟨rfl, .nil⟩
  | cons m file ih =>
    obtain ⟨hlines, hsections⟩ := ih (fun m' h => hbare m' (List.mem_cons_of_mem m h))
      (fun m' h => hentries m' (List.mem_cons_of_mem m h))
    rcases block_cases (hbare m (List.mem_cons_self ..)) (hentries m (List.mem_cons_self ..)) with
      ⟨hline, -, hblock⟩ | ⟨hline, texts, hblock, htexts⟩
    · simp only [List.map_cons, hblock, List.filter_cons, hline]
      exact ⟨congrArg (_ :: ·) hlines, hsections⟩
    · simp only [List.map_cons, hblock, List.filter_cons, hline]
      exact ⟨hlines, List.rel_append htexts hsections⟩

theorem reads_write {file : Table} (h : IsFile file) : Reads (write file) (fileLines file) := by
  obtain ⟨hlines, hsections⟩ := blocks_cases h.bare h.entries
  have hplain : ∀ m ∈ file.filter (·.2.isLine), isBareName m.1 ∧ m.2.IsPlain := by
    intro m hm
    obtain ⟨hin, hline⟩ := List.mem_filter.mp hm
    rcases block_cases (h.bare m hin) (h.entries m hin) with ⟨-, hplain, -⟩ | ⟨hno, -⟩
    · exact ⟨h.bare m hin, hplain⟩
    · exact absurd hline (by simp [hno])
  have hopening : Reads (body (file.filter (·.2.isLine))) (pairs (file.filter (·.2.isLine))) := by
    exact ⟨spells_body hplain, stops_body fun m hm => (hplain m hm).1⟩
  unfold write fileLines
  extract_lets blocks lines sections opening
  have hjoin : String.join lines = body (file.filter (·.2.isLine)) := congrArg String.join hlines
  by_cases hnone : lines.isEmpty
  · have hopen : opening = [] := if_pos hnone
    have hempty : file.filter (·.2.isLine) = [] := by
      have hmap : lines = (file.filter (·.2.isLine)).map fun m => pairLine m.1 m.2 := hlines
      rw [hmap] at hnone
      simpa using hnone
    rw [hopen, hempty]
    exact reads_intercalate hsections
  · have hopen : opening = [String.join lines] := if_neg hnone
    rw [hopen, hjoin]
    exact reads_intercalate (.cons hopening hsections)

/-! ### What is read -/

/-- What stands under the name of a value when its sections have been read. -/
def sectionNode : Value → Node
  | .table members => .table .defined (valueNodes members)
  | .array items => .tables (((tablesOf? items).getD []).map valueNodes)
  | v => .value v

theorem toValue_sectionNode (h : v.IsEntry) (hline : v.isLine = false) :
    (sectionNode v).toValue = v := by
  cases h with
  | plain h => exact absurd h.isLine (by simp [hline])
  | table h => simp [sectionNode, Node.toValue, membersToTable_valueNodes]
  | tables h =>
    simp only [sectionNode, tablesOf?_tables, Option.getD_some, Node.toValue,
      elementsToValues_eq_map, List.map_map, Function.comp_def, membersToTable_valueNodes]

theorem fills_sectionLines {root : Members} (hname : name ∉ root.map Prod.fst) (h : v.IsEntry)
    (hline : v.isLine = false) :
    Fills root (sectionLines name v).flatten (root ++ [(name, sectionNode v)]) := by
  cases h with
  | plain h => exact absurd h.isLine (by simp [hline])
  | table h => simpa [sectionLines, sectionNode] using fills_table hname h.distinct
  | @tables first more h =>
    have hfill := fills_tables hname fun members hmembers => (h members hmembers).distinct
    simp only [sectionLines, sectionNode, tablesOf?_tables, Option.getD_some]
    rwa [← List.flatMap_def]

/-- The sections of a file come after what is there. -/
theorem fills_sections {root : Members} {file : Table} (hentries : ∀ m ∈ file, m.2.IsEntry)
    (hlines : ∀ m ∈ file, m.2.isLine = false)
    (hdistinct : (root.map Prod.fst ++ file.map Prod.fst).Nodup) :
    Fills root (file.flatMap fun m => sectionLines m.1 m.2).flatten
      (root ++ file.map fun m => (m.1, sectionNode m.2)) := by
  induction file generalizing root with
  | nil => simpa using fills_nil root
  | cons m file ih =>
    have hnew : m.1 ∉ root.map Prod.fst := by
      intro hmem
      exact (List.nodup_append.mp hdistinct).2.2 m.1 hmem m.1 (List.mem_cons_self ..) rfl
    have hfirst := fills_sectionLines hnew (hentries m (List.mem_cons_self ..))
      (hlines m (List.mem_cons_self ..))
    have hmore := @ih (root ++ [(m.1, sectionNode m.2)])
      (fun m' h => hentries m' (List.mem_cons_of_mem m h))
      (fun m' h => hlines m' (List.mem_cons_of_mem m h)) (by simpa using hdistinct)
    simpa using hfirst.append hmore

/-- The tables of a file when its lines have been read. -/
def fileNodes (file : Table) : Members :=
  valueNodes (file.filter (·.2.isLine)) ++
    (file.filter (!·.2.isLine)).map fun m => (m.1, sectionNode m.2)

theorem nodup_inOrder {file : Table} (h : IsFile file) :
    ((inOrder file).map Prod.fst).Nodup :=
  ((List.filter_append_perm _ file).map Prod.fst).nodup_iff.mpr h.distinct

/-- The lines of a file fill it. -/
theorem fill_file {file : Table} (h : IsFile file) :
    ∃ header, (fileLines file).foldlM Progress.step ⟨[], []⟩ = some ⟨fileNodes file, header⟩ := by
  have hdistinct := nodup_inOrder h
  rw [inOrder, List.map_append] at hdistinct
  have hplace : ∀ (inner : Members) path v, (id inner).insertUnder [] path v =
      (Members.insert path v inner).map id := by
    intro inner path v
    simp [Members.insertUnder, Members.reach]
  have hplain := fill_pairs id [] (file.filter (·.2.isLine)) hplace
    (by simpa using (List.nodup_append.mp hdistinct).1)
  have hkeys : (valueNodes (file.filter (·.2.isLine))).map Prod.fst =
      (file.filter (·.2.isLine)).map Prod.fst := by
    simp [valueNodes, Function.comp_def]
  have hsections : Fills (valueNodes (file.filter (·.2.isLine)))
      ((file.filter (!·.2.isLine)).flatMap fun m => sectionLines m.1 m.2).flatten
      (fileNodes file) := by
    refine fills_sections (fun m hm => ?_) (fun m hm => ?_) (hkeys ▸ hdistinct)
    · exact h.entries m (List.mem_filter.mp hm).1
    · simpa using (List.mem_filter.mp hm).2
  obtain ⟨header, hfold⟩ := hsections []
  refine ⟨header, ?_⟩
  rw [fileLines, List.foldlM_append]
  exact (congrArg (· >>= _) hplain).trans hfold

theorem membersToTable_fileNodes {file : Table} (h : IsFile file) :
    membersToTable (fileNodes file) = inOrder file := by
  have hvalues : ∀ m ∈ file.filter (!·.2.isLine), (m.1, (sectionNode m.2).toValue) = m := by
    intro m hm
    obtain ⟨hin, hline⟩ := List.mem_filter.mp hm
    rw [toValue_sectionNode (h.entries m hin) (by simpa using hline)]
  rw [fileNodes, membersToTable_eq_map, List.map_append, ← membersToTable_eq_map,
    membersToTable_valueNodes, List.map_map, inOrder]
  exact congrArg _ ((List.map_congr_left hvalues).trans (List.map_id _))

/-- A file is read as it was written, the values on lines first. -/
theorem parse?_write {file : Table} (h : IsFile file) :
    parse? (write file) = some (inOrder file) := by
  obtain ⟨hspells, hstart⟩ := reads_write h
  obtain ⟨header, hfill⟩ := fill_file h
  unfold parse?
  extract_lets cs
  have hcs : cs = (write file).toList := by
    unfold cs
    split
    · exact (‹_› : _ = _).symm
    · rename_i c rest hwrite
      have hc := hstart c (by rw [hwrite]; rfl)
      exact (if_neg (by simpa using hc)).trans hwrite.symm
  rw [hcs, lines?_of_spells hspells]
  simp [hfill, membersToTable_fileNodes h]

/-- Under every name there is what was written under it. -/
theorem exists_parse?_write {file : Table} (h : IsFile file) :
    ∃ file', parse? (write file) = some file' ∧ ∀ name, file'.lookup name = file.lookup name := by
  refine ⟨inOrder file, parse?_write h, fun name => ?_⟩
  exact (Lookup.lookup_of_perm (List.filter_append_perm _ file).symm h.distinct name).symm

end Perimeter.Toml
