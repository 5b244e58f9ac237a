import Mathlib.Data.List.Induction
import StorageAdapter.Proofs.Document

/-! # Documents in sections

A document of pairs and, behind them, sections in any order: tables with a header of their own, and
tables that are elements of a list. A section changes the value of its key and of no other
(`Section.foldlM_statements`), wherever the key stands among the entries. So the tree of a document
is told key by key: `Section.grow` says what each section makes of the values, and the tree has the
values that are left at the end (`Document.build_statements`). -/

namespace StorageAdapter.Toml

open Reader

/-! ### Values by key -/

namespace Entries

/-- The entries with another value for a key, at its place if it is there. -/
def set (key : String) (n : Node) : Entries → Entries
  | [] => [(key, n)]
  | (k, m) :: rest => if k = key then (k, n) :: rest else (k, m) :: set key n rest

section Set

variable {key : String} (es : Entries)

theorem get?_cons (k : String) (n : Node) :
    get? ((k, n) :: es) key = if k = key then some n else es.get? key := by
  unfold get?
  rw [List.lookup_cons]
  by_cases h : k = key
  · rw [if_pos h, h, beq_self_eq_true]
  · rw [if_neg h, beq_false_of_ne (Ne.symm h)]

theorem get?_append (es' : Entries) : get? (es ++ es') key = (es.get? key).or (es'.get? key) :=
  List.lookup_append

theorem set_cons (k : String) (m n : Node) :
    set key n ((k, m) :: es) = if k = key then (k, n) :: es else (k, m) :: set key n es := rfl

/-- **A change of a key** depends on its value alone and puts another one in its place. -/
theorem alter_eq (f : Option Node → Option Node) :
    alter key f es = (f (es.get? key)).map fun n => es.set key n := by
  induction es with
  | nil => rfl
  | cons e es ih =>
    obtain ⟨k, m⟩ := e
    rw [get?_cons]
    unfold alter set
    by_cases h : k = key
    · simp only [if_pos h]
    · simp only [if_neg h]
      rw [ih, Option.map_map]
      rfl

theorem get?_set_self (n : Node) : (es.set key n).get? key = some n := by
  induction es with
  | nil => rw [set, get?_cons, if_pos rfl]
  | cons e es ih =>
    rw [set_cons]
    split
    · next h => rw [get?_cons, if_pos h]
    · next h => rw [get?_cons, if_neg h, ih]

theorem get?_set_of_ne {k : String} (hk : k ≠ key) (n : Node) :
    (es.set key n).get? k = es.get? k := by
  induction es with
  | nil => rw [set, get?_cons, if_neg (Ne.symm hk)]
  | cons e es ih =>
    rw [set_cons]
    split
    · next h => rw [get?_cons, get?_cons, if_neg (h ▸ Ne.symm hk), if_neg (h ▸ Ne.symm hk)]
    · rw [get?_cons, get?_cons, ih]

theorem set_set (m n : Node) : (es.set key m).set key n = es.set key n := by
  induction es with
  | nil => rw [set, set_cons, if_pos rfl, set]
  | cons e es ih =>
    rw [set_cons, set_cons]
    by_cases h : e.1 = key
    · rw [if_pos h, if_pos h, set_cons, if_pos h]
    · rw [if_neg h, if_neg h, set_cons, if_neg h, ih]

/-- The values by key after one of them was set. -/
theorem get?_set (n : Node) :
    (es.set key n).get? = Function.update es.get? key (some n) := by
  funext k
  by_cases hk : k = key
  · subst hk
    rw [get?_set_self, Function.update_self]
  · rw [get?_set_of_ne es hk, Function.update_of_ne hk]

/-- A header leads to a table wherever its key stands. -/
theorem place_set_table : Place [key] fun inner => es.set key (.table .header inner) := by
  intro f inner
  unfold within
  rw [alter_eq, get?_set_self]
  simp only [set_set, within, Option.map_map]
  rfl

/-- A header in double brackets leads to the last table of its list. -/
theorem place_set_tables (elements : List Entries) :
    Place [key] fun inner => es.set key (.tables (elements ++ [inner])) := by
  intro f inner
  unfold within
  rw [alter_eq, get?_set_self]
  simp only [set_set, alterLast_append, Option.map_map]
  rfl

end Set

end Entries

/-! ### Sections -/

namespace Field

/-- The statement of a pair. -/
def pair (f : Field) : Statement := .pair [] f.name f.node

/-- The pairs have different keys. -/
def Distinct (fields : List Field) : Prop := fields.Pairwise fun f g => f.name ≠ g.name

/-- The value of a pair that may be missing. -/
theorem get?_optional {α : Type} (write : α → Field) {name : String}
    (hname : ∀ a, (write a).name = name) (o : Option α) (key : String) :
    Entries.get? ((o.map write).toList.map entry) key =
      if name = key then o.map fun a => (write a).node else none := by
  cases o with
  | none => exact (ite_self _).symm
  | some a =>
    show Entries.get? [((write a).name, (write a).node)] key = _
    rw [Entries.get?_cons, hname]
    rfl

theorem Distinct.perm {fields other : List Field} (h : Distinct fields)
    (hperm : other.Perm fields) : Distinct other :=
  (hperm.pairwise_iff fun hne => Ne.symm hne).2 h

/-- **The values by key** do not depend on the order of the pairs. -/
theorem Distinct.get?_perm {fields other : List Field} (h : Distinct fields)
    (hperm : other.Perm fields) :
    Entries.get? (other.map entry) = Entries.get? (fields.map entry) := by
  funext key
  induction hperm with
  | nil => rfl
  | cons f hperm ih =>
    rw [List.map_cons, List.map_cons]
    unfold entry
    rw [Entries.get?_cons, Entries.get?_cons]
    exact if_congr Iff.rfl rfl (ih h.tail)
  | swap f g fields =>
    have hne : f.name ≠ g.name := (List.pairwise_cons.1 h).1 g List.mem_cons_self
    simp only [List.map_cons, entry, Entries.get?_cons]
    by_cases hf : f.name = key
    · rw [if_pos hf, if_neg fun hg => hne (hf.trans hg.symm), if_pos hf]
    · rw [if_neg hf, if_neg hf]
  | trans hfirst hsecond ihfirst ihsecond =>
    exact (ihfirst (h.perm hsecond)).trans (ihsecond h)

end Field

/-- A section of a document: its header and the pairs behind that. -/
structure Section where
  key : String
  /-- Whether the table is one of a list of tables. -/
  isElement : Bool
  fields : List Field

namespace Section

/-- The line of the header. -/
def opening (s : Section) : Line := if s.isElement then .headers s.key else .header s.key

/-- The header. -/
def head (s : Section) : Statement := if s.isElement then .tables [] s.key else .table [] s.key

def lines (s : Section) : List Line := Line.blank :: s.opening :: s.fields.map Field.line

def statements (s : Section) : List Statement := s.head :: s.fields.map Field.pair

/-- The entries of the table. -/
def entries (s : Section) : Entries := s.fields.map Field.entry

/-- What the section makes of the value of its key: a table is opened once, and a list of tables
gets one more. -/
def value (s : Section) : Option Node → Option Node
  | none => some (if s.isElement then .tables [s.entries] else .table .header s.entries)
  | some (.tables elements) =>
    if s.isElement then some (.tables (elements ++ [s.entries])) else none
  | some _ => none

/-- What the section makes of the values by key. -/
def grow (v : String → Option Node) (s : Section) : Option (String → Option Node) :=
  (s.value (v s.key)).map fun n => Function.update v s.key (some n)

/-! #### The values behind sections -/

/-- The tables of the sections with a key. -/
def tablesAt (key : String) (sections : List Section) : List Entries :=
  (sections.filter (·.key = key)).map entries

/-- The value of a key with these tables, in a list or on its own. -/
def valueOf (inList : Bool) : List Entries → Option Node
  | [] => none
  | es :: rest => some (if inList then .tables (es :: rest) else .table .header es)

/-- The values by key behind sections, from those before. -/
def behind (inList : String → Bool) (v : String → Option Node) (sections : List Section)
    (key : String) : Option Node :=
  (valueOf (inList key) (tablesAt key sections)).or (v key)

section Grow

variable {inList : String → Bool} {sections : List Section} {v : String → Option Node}

theorem tablesAt_append_self (s : Section) :
    tablesAt s.key (sections ++ [s]) = tablesAt s.key sections ++ [s.entries] := by
  simp [tablesAt, List.filter_append]

theorem tablesAt_append_of_ne {key : String} {s : Section} (h : s.key ≠ key) :
    tablesAt key (sections ++ [s]) = tablesAt key sections := by
  simp [tablesAt, List.filter_append, h]

/-- A section makes the value with its table of the value without it. -/
theorem value_valueOf (s : Section) {tables : List Entries}
    (hone : s.isElement = false → tables = []) :
    s.value (valueOf s.isElement tables) = valueOf s.isElement (tables ++ [s.entries]) := by
  rcases tables with _ | ⟨es, tables⟩
  · rfl
  · cases he : s.isElement with
    | false => exact absurd (hone he) (List.cons_ne_nil es tables)
    | true => simp only [valueOf, value, he, if_true, List.cons_append]

/-- **One more section** adds its table to those with its key. -/
theorem grow_behind {s : Section} (hs : s.isElement = inList s.key)
    (hone : s.isElement = false → tablesAt s.key sections = []) (hv : v s.key = none) :
    grow (behind inList v sections) s = some (behind inList v (sections ++ [s])) := by
  have hbefore : behind inList v sections s.key =
      valueOf s.isElement (tablesAt s.key sections) := by
    unfold behind
    rw [hv, Option.or_none, hs]
  obtain ⟨n, hn⟩ : ∃ n, valueOf s.isElement (tablesAt s.key sections ++ [s.entries]) = some n := by
    cases tablesAt s.key sections <;> exact ⟨_, rfl⟩
  unfold grow
  rw [hbefore, value_valueOf s hone, hn, Option.map_some]
  refine congrArg some (funext fun key => ?_)
  by_cases hkey : key = s.key
  · subst hkey
    rw [Function.update_self]
    unfold behind
    rw [tablesAt_append_self, ← hs, hn, Option.some_or]
  · rw [Function.update_of_ne hkey]
    unfold behind
    rw [tablesAt_append_of_ne (Ne.symm hkey)]

/-- **Sections in any order**: each key has the tables of its sections, if those of a key are either
all in a list or only one, and the key has no value before. -/
theorem foldlM_grow (hlist : ∀ s ∈ sections, s.isElement = inList s.key)
    (hone : ∀ key, inList key = false → (tablesAt key sections).length ≤ 1)
    (hv : ∀ s ∈ sections, v s.key = none) :
    sections.foldlM grow v = some (behind inList v sections) := by
  induction sections using List.reverseRecOn with
  | nil => rfl
  | append_singleton sections s ih =>
    have hs : s.isElement = inList s.key := hlist s (by simp)
    have hfew (key : String) (hkey : inList key = false) : (tablesAt key sections).length ≤ 1 := by
      have hmore := hone key hkey
      unfold tablesAt at hmore ⊢
      rw [List.filter_append, List.map_append, List.length_append] at hmore
      omega
    have hempty (he : s.isElement = false) : tablesAt s.key sections = [] := by
      have hmore := hone s.key (hs.symm.trans he)
      rw [tablesAt_append_self, List.length_append, List.length_singleton] at hmore
      exact List.length_eq_zero_iff.1 (by omega)
    rw [List.foldlM_append, ih (fun s hs => hlist s (by simp [hs])) hfew
      (fun s hs => hv s (by simp [hs]))]
    show (grow (behind inList v sections) s).bind some = _
    rw [grow_behind hs hempty (hv s (by simp)), Option.bind_some]

end Grow

section Statements

variable {s : Section} (hd : Field.Distinct s.fields) {es : Entries} (header : List String)
include hd

theorem foldlM_of_place {put : Entries → Entries} (hplace : Entries.Place [s.key] put)
    (hopen : s.head.apply ⟨es, header⟩ = some ⟨put [], [s.key]⟩) :
    s.statements.foldlM Statement.apply ⟨es, header⟩ = some ⟨put s.entries, [s.key]⟩ := by
  have hpairs := Statement.foldlM_pairs hplace [] hd (fun f _ e he => absurd he List.not_mem_nil)
  unfold statements
  rw [List.foldlM_cons, hopen]
  exact hpairs

/-- **A section** changes the value of its key. -/
theorem foldlM_statements {n : Node} (h : s.value (es.get? s.key) = some n) :
    s.statements.foldlM Statement.apply ⟨es, header⟩ = some ⟨es.set s.key n, [s.key]⟩ := by
  obtain ⟨key, element, fields⟩ := s
  rcases hget : es.get? key with _ | m
  · rw [hget] at h
    cases element with
    | false =>
      obtain rfl : Node.table .header (fields.map Field.entry) = n := Option.some.inj h
      refine foldlM_of_place hd header es.place_set_table ?_
      show (Entries.openTable key es).bind _ = _
      unfold Entries.openTable
      rw [Entries.alter_eq, hget]
      rfl
    | true =>
      obtain rfl : Node.tables [fields.map Field.entry] = n := Option.some.inj h
      refine foldlM_of_place hd header (es.place_set_tables []) ?_
      show (Entries.openTables key es).bind _ = _
      unfold Entries.openTables
      rw [Entries.alter_eq, hget]
      rfl
  · rw [hget] at h
    -- only a list of tables gets another one
    obtain ⟨rfl, elements, rfl, rfl⟩ : element = true ∧ ∃ elements, m = .tables elements ∧
        Node.tables (elements ++ [fields.map Field.entry]) = n := by
      cases m <;> cases element <;> simp_all [value, entries]
    refine foldlM_of_place hd header (es.place_set_tables elements) ?_
    show (Entries.openTables key es).bind _ = _
    unfold Entries.openTables
    rw [Entries.alter_eq, hget]
    rfl

end Statements

/-- **Sections**, one after the other, leave the values that they make of those before. -/
theorem foldlM_sections {sections : List Section} (hd : ∀ s ∈ sections, Field.Distinct s.fields)
    {es : Entries} {v : String → Option Node} (h : sections.foldlM grow es.get? = some v)
    (header : List String) :
    ∃ root header', (sections.flatMap statements).foldlM Statement.apply ⟨es, header⟩ =
      some ⟨root, header'⟩ ∧ root.get? = v := by
  induction sections generalizing es header with
  | nil => exact ⟨es, header, rfl, Option.some.inj h⟩
  | cons s sections ih =>
    obtain ⟨hs, hd⟩ := List.forall_mem_cons.1 hd
    rw [List.foldlM_cons] at h
    obtain ⟨w, hw, hv⟩ := Option.bind_eq_some_iff.1 h
    obtain ⟨n, hn, rfl⟩ := Option.map_eq_some_iff.1 hw
    rw [← Entries.get?_set] at hv
    obtain ⟨root, header', hmore, hroot⟩ := ih hd hv [s.key]
    refine ⟨root, header', ?_, hroot⟩
    rw [List.flatMap_cons, List.foldlM_append, foldlM_statements hs header hn]
    exact hmore

end Section

/-! ### Documents -/

/-- A document: the pairs before the first header, and the sections behind them. -/
structure Document where
  pairs : List Field
  sections : List Section

namespace Document

def lines (d : Document) : List Line :=
  d.pairs.map Field.line ++ d.sections.flatMap Section.lines

/-- The document with a line for each header and each pair. -/
def text (d : Document) : String := String.ofList (Line.textOf d.lines)

def statements (d : Document) : List Statement :=
  d.pairs.map Field.pair ++ d.sections.flatMap Section.statements

/-- Each header and each pair is read. -/
structure IsRead (d : Document) : Prop where
  pairs : ∀ f ∈ d.pairs, f.IsRead
  keys : ∀ s ∈ d.sections, BareKey s.key
  fields : ∀ s ∈ d.sections, ∀ f ∈ s.fields, f.IsRead

/-- No table has a key twice. -/
structure Distinct (d : Document) : Prop where
  pairs : Field.Distinct d.pairs
  fields : ∀ s ∈ d.sections, Field.Distinct s.fields

variable {d : Document}

theorem IsRead.lines (h : d.IsRead) : ∀ l ∈ d.lines, l.IsRead := by
  intro l hl
  rcases List.mem_append.1 hl with hl | hl
  · exact Field.isRead_lines h.pairs l hl
  · obtain ⟨s, hs, hl⟩ := List.mem_flatMap.1 hl
    rcases List.mem_cons.1 hl with rfl | hl
    · exact Line.isRead_blank
    rcases List.mem_cons.1 hl with rfl | hl
    · unfold Section.opening
      split
      · exact Line.isRead_headers (h.keys s hs)
      · exact Line.isRead_header (h.keys s hs)
    · exact Field.isRead_lines (h.fields s hs) l hl

theorem statement_lines (d : Document) :
    (d.lines.map Line.statement).filterMap id = d.statements := by
  have hsection (s : Section) : s.lines.filterMap Line.statement = s.statements := by
    have hopening : s.opening.statement = some s.head := by
      unfold Section.opening Section.head
      split <;> rfl
    unfold Section.lines Section.statements
    rw [List.filterMap_cons_none rfl, List.filterMap_cons_some hopening, Field.statement_lines]
    rfl
  rw [List.filterMap_map]
  show List.filterMap Line.statement d.lines = _
  unfold lines statements
  rw [List.filterMap_append, Field.statement_lines, List.filterMap_flatMap]
  simp only [hsection]
  rfl

theorem IsRead.refuses_byteOrderMark (h : d.IsRead) :
    Refuses Statement.byteOrderMark (Line.textOf d.lines) := by
  obtain ⟨pairs, sections⟩ := d
  rcases pairs with _ | ⟨f, pairs⟩
  · rcases sections with _ | ⟨s, sections⟩
    · rfl
    · exact refuses_char (c := Char.ofNat 0xFEFF) (d := '\n') (by decide) _
  · obtain ⟨c, cs, hname, hc⟩ := (h.pairs f List.mem_cons_self).name.exists_cons
    have hmark : c ≠ Char.ofNat 0xFEFF := ne_of_isBareKeyChar hc (by decide)
    have htext : ∃ cs', Line.textOf (Document.lines ⟨f :: pairs, sections⟩) = c :: cs' := by
      simp [Document.lines, Line.textOf, Field.line, pairLine, String.toList_append, hname]
    obtain ⟨cs', htext⟩ := htext
    rw [htext]
    exact refuses_char hmark _

/-- **The text of a document is read** as the statements of its headers and pairs. -/
theorem IsRead.reads_text (h : d.IsRead) :
    Reads Statement.readAll d.text.toList d.statements [] := by
  unfold text
  rw [String.toList_ofList, ← statement_lines]
  exact Line.reads_readAll h.lines h.refuses_byteOrderMark

/-- **The tree of a document** has the values that the sections make of the pairs. -/
theorem Distinct.build_statements (h : d.Distinct) {v : String → Option Node}
    (hv : d.sections.foldlM Section.grow (Entries.get? (d.pairs.map Field.entry)) = some v) :
    ∃ root, Statement.build d.statements = some root ∧ root.get? = v := by
  have hpairs := Statement.foldlM_pairs Entries.place_root [] h.pairs
    (fun f _ e he => absurd he List.not_mem_nil)
  obtain ⟨root, header, hsections, hroot⟩ := Section.foldlM_sections h.fields hv []
  refine ⟨root, ?_, hroot⟩
  have hbuild : d.statements.foldlM Statement.apply {} = some ⟨root, header⟩ := by
    unfold statements
    rw [List.foldlM_append]
    exact Option.bind_eq_some_iff.2 ⟨_, hpairs, hsections⟩
  unfold Statement.build
  rw [hbuild]
  rfl

end Document

end StorageAdapter.Toml
