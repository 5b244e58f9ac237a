import StorageAdapter.Proofs.Values

/-! # Documents that are read back

A document of pairs, some under headers, is read line by line (`reads_lines`) and its lines build
the tree of its pairs: those before the first header at the root, those under a header in a table of
their own. What a header stands for is described by a place in the tree (`Entries.Place`), so that
pairs are added in one way, wherever they belong. -/

namespace StorageAdapter.Toml

open Reader

/-- A name that needs no quotes as a key. -/
structure BareKey (name : String) : Prop where
  ne : name.toList ≠ []
  chars : ∀ c ∈ name.toList, isBareKeyChar c = true

instance (name : String) : Decidable (BareKey name) :=
  decidable_of_iff (name.toList.isEmpty = false ∧ name.toList.all isBareKeyChar = true)
    ⟨fun h => ⟨List.isEmpty_eq_false_iff.1 h.1, List.all_eq_true.1 h.2⟩,
      fun h => ⟨List.isEmpty_eq_false_iff.2 h.ne, List.all_eq_true.2 h.chars⟩⟩

theorem ne_of_isBareKeyChar {c d : Char} (hc : isBareKeyChar c = true)
    (hd : isBareKeyChar d = false) : c ≠ d := by
  rintro rfl
  exact Bool.false_ne_true (hd.symm.trans hc)

theorem BareKey.exists_cons {name : String} (h : BareKey name) :
    ∃ c cs, name.toList = c :: cs ∧ isBareKeyChar c = true := by
  obtain ⟨hne, hchars⟩ := h
  rcases hname : name.toList with _ | ⟨c, cs⟩
  · exact absurd hname hne
  · exact ⟨c, cs, rfl, hchars c (hname ▸ List.mem_cons_self)⟩

/-- A line and what it says. -/
structure Line where
  text : String
  statement : Option Statement

namespace Line

/-! ### Lines -/

/-- The line is read up to the next one, which does not begin with a space either. -/
structure IsRead (l : Line) : Prop where
  start : ∃ c cs, l.text.toList = c :: cs ∧ isSpace c = false
  read : ∀ rest, NotBefore isSpace rest →
    Reads Statement.readLine (l.text.toList ++ rest) l.statement rest

/-- The text of lines. -/
def textOf (lines : List Line) : List Char := lines.flatMap fun l => l.text.toList

theorem notBefore_textOf {lines : List Line} (h : ∀ l ∈ lines, l.IsRead) :
    NotBefore isSpace (textOf lines) := by
  rcases lines with _ | ⟨l, lines⟩
  · exact notBefore_nil isSpace
  · obtain ⟨c, cs, htext, hc⟩ := (h l List.mem_cons_self).start
    unfold textOf
    rw [List.flatMap_cons, htext]
    exact notBefore_cons hc _

/-- **Lines are read one after the other.** -/
theorem reads_lines {lines : List Line} (h : ∀ l ∈ lines, l.IsRead) :
    Reads (untilClosed atEnd Statement.readLine) (textOf lines)
      (lines.map Line.statement, ()) [] := by
  induction lines with
  | nil => exact reads_untilClosed rfl
  | cons l lines ih =>
    rw [List.forall_mem_cons] at h
    have hread := h.1.read _ (notBefore_textOf h.2)
    obtain ⟨c, cs, htext, -⟩ := h.1.start
    have hsplit : textOf (l :: lines) = l.text.toList ++ textOf lines := rfl
    have hopen : Refuses atEnd (l.text.toList ++ textOf lines) := by
      rw [htext]
      rfl
    rw [hsplit]
    refine hopen.untilClosed hread ?_ (ih h.2)
    rw [htext]
    exact length_lt_cons_append c cs (textOf lines)

/-- The statements of a text are those of its lines, if it does not begin with a mark. -/
theorem reads_readAll {lines : List Line} (h : ∀ l ∈ lines, l.IsRead)
    (hmark : Refuses Statement.byteOrderMark (textOf lines)) :
    Reads Statement.readAll (textOf lines) ((lines.map Line.statement).filterMap id) [] :=
  hmark.optional.bind ((reads_spaces (notBefore_textOf h)).bind
    ((reads_lines h).bind (reads_pure _ _)))

/-- A line without a statement. -/
def blank : Line := ⟨"\n", none⟩

/-- The header of a table. -/
def header (name : String) : Line := ⟨"[" ++ name ++ "]\n", some (.table [] name)⟩

/-- The header of a table in a list of tables. -/
def headers (name : String) : Line := ⟨"[[" ++ name ++ "]]\n", some (.tables [] name)⟩

theorem isRead_blank : blank.IsRead where
  start := ⟨'\n', [], rfl, rfl⟩
  read rest hrest := (reads_newline rest).orElse.map.orElse.bind
    ((reads_spaces hrest).bind (reads_pure none rest))

/-- What begins with another character than a blank line is read as one of the statements. -/
theorem reads_statement {c : Char} {cs rest : List Char} {s : Statement} (hn : c ≠ '\n')
    (hr : c ≠ '\r') (hcomment : c ≠ '#') (hrest : NotBefore isSpace rest)
    (h : Reads (some <$> Statement.readTables <|> some <$> Statement.readTable <|>
      some <$> Statement.readPair) (c :: cs) (some s) rest) :
    Reads Statement.readLine (c :: cs) (some s) rest := by
  have hblank : Refuses Statement.blankLine (c :: cs) :=
    (refuses_newline hn hr cs).orElse (refuses_char hcomment cs).bind.bind
  exact (hblank.map.orElse_reads h).bind ((reads_spaces hrest).bind (reads_pure _ rest))

/-- A key is read up to a character that follows it at once. -/
theorem reads_bareKey {name : String} (h : BareKey name) {c : Char}
    (hbare : isBareKeyChar c = false) (hspace : isSpace c = false) (hdot : c ≠ '.')
    (cs : List Char) :
    Reads key (name.toList ++ c :: cs) ([], name) (c :: cs) := by
  have hpart : Reads keyPart (name.toList ++ ([] ++ c :: cs)) (String.ofList name.toList)
      (c :: cs) :=
    reads_keyPart [] h.ne h.chars (by simp) (notBefore_cons hbare cs) (notBefore_cons hspace cs)
  rw [String.ofList_toList] at hpart
  exact reads_key hpart (notBefore_cons (p := (· == '.')) (beq_false_of_ne hdot) cs)

theorem isRead_headers {name : String} (h : BareKey name) : (headers name).IsRead where
  start := ⟨'[', '[' :: (name.toList ++ [']', ']', '\n']), by
    simp [headers, String.toList_append], rfl⟩
  read rest hrest := by
    have htext : (headers name).text.toList ++ rest =
        '[' :: '[' :: (name.toList ++ ']' :: ']' :: '\n' :: rest) := by
      simp [headers, String.toList_append]
    have hkey := reads_bareKey h (c := ']') rfl rfl (by decide) (']' :: '\n' :: rest)
    have htables : Reads Statement.readTables
        ('[' :: '[' :: (name.toList ++ ']' :: ']' :: '\n' :: rest)) (.tables [] name) rest :=
      (reads_word ['[', '['] _).bind (hkey.bind ((reads_word [']', ']'] _).bind
        ((reads_lineRest rest).bind (reads_pure _ rest))))
    rw [htext]
    exact reads_statement (by decide) (by decide) (by decide) hrest htables.map.orElse

theorem isRead_header {name : String} (h : BareKey name) : (header name).IsRead where
  start := ⟨'[', name.toList ++ [']', '\n'], by simp [header, String.toList_append], rfl⟩
  read rest hrest := by
    have htext : (header name).text.toList ++ rest =
        '[' :: (name.toList ++ ']' :: '\n' :: rest) := by
      simp [header, String.toList_append]
    have hkey := reads_bareKey h (c := ']') rfl rfl (by decide) ('\n' :: rest)
    have htables : Refuses Statement.readTables ('[' :: (name.toList ++ ']' :: '\n' :: rest)) := by
      obtain ⟨c, cs, hname, hc⟩ := h.exists_cons
      have hopen : c ≠ '[' := ne_of_isBareKeyChar hc rfl
      rw [hname]
      exact ((reads_char '[' _).bind_refuses (refuses_char hopen _).bind).bind
    have htable : Reads Statement.readTable ('[' :: (name.toList ++ ']' :: '\n' :: rest))
        (.table [] name) rest :=
      (reads_char '[' _).bind (hkey.bind ((reads_char ']' _).bind
        ((reads_lineRest rest).bind (reads_pure _ rest))))
    rw [htext]
    exact reads_statement (by decide) (by decide) (by decide) hrest
      (htables.map.orElse_reads htable.map.orElse)

end Line

/-! ### Pairs -/

/-- A pair: its key, and a value with its text. -/
structure Field where
  name : String
  text : String
  node : Node

namespace Field

/-- The line of a pair. -/
def line (f : Field) : Line := ⟨pairLine f.name f.text, some (.pair [] f.name f.node)⟩

/-- The entry of a pair in its table. -/
def entry (f : Field) : String × Node := (f.name, f.node)

/-- The key needs no quotes, and the text at the end of a line is read as the value. -/
structure IsRead (f : Field) : Prop where
  name : BareKey f.name
  start : NotBefore isSpace f.text.toList
  read : ∀ rest, Reads (value (levelLimit - 1)) (f.text.toList ++ '\n' :: rest) f.node
    ('\n' :: rest)

theorem IsRead.pair {f : Field} (h : f.IsRead) (rest : List Char) :
    Reads (pair (value (levelLimit - 1)))
      (f.name.toList ++ ' ' :: '=' :: ' ' :: (f.text.toList ++ '\n' :: rest))
      ([], f.name, f.node) ('\n' :: rest) := by
  have hpart : Reads keyPart
      (f.name.toList ++ ([' '] ++ '=' :: ' ' :: (f.text.toList ++ '\n' :: rest)))
      (String.ofList f.name.toList) ('=' :: ' ' :: (f.text.toList ++ '\n' :: rest)) :=
    reads_keyPart [' '] h.name.ne h.name.chars (by simp [isSpace]) (notBefore_cons rfl _)
      (notBefore_cons rfl _)
  rw [String.ofList_toList] at hpart
  have hkey := reads_key hpart (notBefore_cons rfl _)
  have hvalue : NotBefore isSpace (f.text.toList ++ '\n' :: rest) :=
    h.start.append (notBefore_cons rfl rest)
  exact hkey.bind ((reads_char '=' _).bind
    ((reads_space hvalue).bind ((h.read rest).bind (reads_pure _ _))))

/-- **The line of a pair is read.** -/
theorem IsRead.line {f : Field} (h : f.IsRead) : f.line.IsRead := by
  obtain ⟨c, cs, hname, hc⟩ := h.name.exists_cons
  have hspace : isSpace c = false := by
    simp [isSpace, ne_of_isBareKeyChar hc (d := ' ') rfl, ne_of_isBareKeyChar hc (d := '\t') rfl]
  have htext (rest : List Char) : f.line.text.toList ++ rest =
      c :: (cs ++ ' ' :: '=' :: ' ' :: (f.text.toList ++ '\n' :: rest)) := by
    simp [Field.line, pairLine, String.toList_append, hname]
  refine ⟨⟨c, _, (List.append_nil _).symm.trans (htext []), hspace⟩, fun rest hrest => ?_⟩
  have hpair := h.pair rest
  rw [hname] at hpair
  have hread : Reads Statement.readPair
      (c :: (cs ++ ' ' :: '=' :: ' ' :: (f.text.toList ++ '\n' :: rest)))
      (.pair [] f.name f.node) rest :=
    hpair.bind ((reads_lineRest rest).bind (reads_pure _ rest))
  have hopen : c ≠ '[' := ne_of_isBareKeyChar hc rfl
  have htables : Refuses Statement.readTables
      (c :: (cs ++ ' ' :: '=' :: ' ' :: (f.text.toList ++ '\n' :: rest))) :=
    (refuses_word hopen _ _).bind
  have htable : Refuses Statement.readTable
      (c :: (cs ++ ' ' :: '=' :: ' ' :: (f.text.toList ++ '\n' :: rest))) :=
    (refuses_char hopen _).bind
  rw [htext]
  exact Line.reads_statement (ne_of_isBareKeyChar hc rfl) (ne_of_isBareKeyChar hc rfl)
    (ne_of_isBareKeyChar hc rfl) hrest
    (htables.map.orElse_reads (htable.map.orElse_reads hread.map))

/-- The lines of pairs are read. -/
theorem isRead_lines {fields : List Field} (h : ∀ f ∈ fields, f.IsRead) :
    ∀ l ∈ fields.map Field.line, l.IsRead :=
  List.forall_mem_map.2 fun f hf => (h f hf).line

theorem statement_lines (fields : List Field) : (fields.map Field.line).filterMap Line.statement =
    fields.map fun f => Statement.pair [] f.name f.node := by
  rw [List.filterMap_map]
  exact congrFun (List.filterMap_eq_map (f := fun f : Field => Statement.pair [] f.name f.node)) _

end Field

/-! ### Building the tree -/

namespace Entries

section Alter

variable {key : String} {es : Entries}

/-- Whether no entry has the key. -/
def Lacks (es : Entries) (key : String) : Prop := ∀ e ∈ es, e.1 ≠ key

theorem alter_of_lacks (h : es.Lacks key) (f : Option Node → Option Node) :
    alter key f es = (f none).map fun n => es ++ [(key, n)] := by
  induction es with
  | nil => rfl
  | cons e es ih =>
    obtain ⟨he, hes⟩ := List.forall_mem_cons.1 h
    unfold alter
    rw [if_neg he, ih hes, Option.map_map]
    rfl

theorem alter_last (h : es.Lacks key) (n : Node) (f : Option Node → Option Node) :
    alter key f (es ++ [(key, n)]) = (f (some n)).map fun n => es ++ [(key, n)] := by
  induction es with
  | nil =>
    show (if key = key then _ else _) = _
    rw [if_pos rfl]
    rfl
  | cons e es ih =>
    obtain ⟨he, hes⟩ := List.forall_mem_cons.1 h
    rw [List.cons_append]
    unfold alter
    rw [if_neg he, ih hes, Option.map_map]
    rfl

theorem alterLast_append (f : Entries → Option Entries) (elements : List Entries) (es : Entries) :
    alterLast f (elements ++ [es]) = (f es).map fun es => elements ++ [es] := by
  induction elements with
  | nil => rfl
  | cons e elements ih =>
    rcases elements with _ | ⟨e', elements⟩
    · show ((f es).map _).map _ = _
      rw [Option.map_map]
      rfl
    · show (alterLast f (e' :: elements ++ [es])).map _ = _
      rw [ih, Option.map_map]
      rfl

end Alter

/-- The header leads to a table, which can be changed in its place. -/
def Place (header : List String) (put : Entries → Entries) : Prop :=
  ∀ f es, within f header (put es) = (f es).map put

theorem place_root : Place [] id := by
  intro f es
  show f es = _
  rw [Option.map_id]
  rfl

section Places

variable {key : String} {es : Entries} (h : es.Lacks key)
include h

theorem place_table : Place [key] fun inner => es ++ [(key, .table .header inner)] := by
  intro f inner
  unfold within
  rw [alter_last h, Option.map_map]
  rfl

theorem place_tables (elements : List Entries) :
    Place [key] fun inner => es ++ [(key, .tables (elements ++ [inner]))] := by
  intro f inner
  unfold within
  rw [alter_last h]
  show ((alterLast f (elements ++ [inner])).map Node.tables).map _ = _
  rw [alterLast_append, Option.map_map, Option.map_map]
  rfl

end Places

theorem Lacks.append_singleton {key : String} {es : Entries} (h : es.Lacks key) {e : String × Node}
    (he : e.1 ≠ key) : (es ++ [e]).Lacks key := by
  intro e' he'
  rcases List.mem_append.1 he' with he' | he'
  · exact h e' he'
  · exact List.mem_singleton.1 he' ▸ he

end Entries

namespace Statement

open Entries

/-- **Pairs are added where the header leads**, if they have different keys. -/
theorem foldlM_pairs {header : List String} {put : Entries → Entries} (hplace : Place header put)
    {fields : List Field} (es : Entries) (hdistinct : fields.Pairwise fun f g => f.name ≠ g.name)
    (hlacks : ∀ f ∈ fields, es.Lacks f.name) :
    (fields.map fun f => Statement.pair [] f.name f.node).foldlM apply ⟨put es, header⟩ =
      some ⟨put (es ++ fields.map Field.entry), header⟩ := by
  induction fields generalizing es with
  | nil =>
    rw [List.map_nil, List.map_nil, List.append_nil]
    rfl
  | cons f fields ih =>
    obtain ⟨hf, hdistinct⟩ := List.pairwise_cons.1 hdistinct
    obtain ⟨hlacksf, hlacks⟩ := List.forall_mem_cons.1 hlacks
    have hadd : Entries.insert true [] f.name f.node es = some (es ++ [f.entry]) :=
      alter_of_lacks hlacksf _
    have happly : apply ⟨put es, header⟩ (.pair [] f.name f.node) =
        some ⟨put (es ++ [f.entry]), header⟩ := by
      show (Entries.within _ header (put es)).bind _ = _
      rw [hplace, hadd]
      rfl
    have hmore := ih (es ++ [f.entry]) hdistinct fun g hg =>
      (hlacks g hg).append_singleton (hf g hg)
    rw [List.map_cons, List.foldlM_cons, happly]
    show List.foldlM apply _ _ = _
    rw [hmore, List.append_assoc]
    rfl

/-- The entries with a list of tables behind them, unless that is empty. -/
def withTables (es : Entries) (key : String) : List Entries → Entries
  | [] => es
  | elements => es ++ [(key, .tables elements)]

section Headers

variable {key : String} {es : Entries} (h : es.Lacks key)
include h

theorem openTables_withTables (elements : List Entries) :
    openTables key (withTables es key elements) =
      some (es ++ [(key, .tables (elements ++ [[]]))]) := by
  unfold withTables openTables
  split
  · exact alter_of_lacks h _
  · exact alter_last h _ _

theorem foldlM_withTables {elements : List (List Field)} (header : List String)
    (hdistinct : ∀ fields ∈ elements, fields.Pairwise fun f g => f.name ≠ g.name)
    (before : List Entries) :
    ∃ header', (elements.flatMap fun fields => Statement.tables [] key ::
        fields.map fun f => Statement.pair [] f.name f.node).foldlM apply
          ⟨withTables es key before, header⟩ =
      some ⟨withTables es key (before ++ elements.map (·.map Field.entry)), header'⟩ := by
  induction elements generalizing before header with
  | nil =>
    rw [List.map_nil, List.append_nil]
    exact ⟨header, rfl⟩
  | cons fields elements ih =>
    obtain ⟨hfields, hdistinct⟩ := List.forall_mem_cons.1 hdistinct
    have hopen : apply ⟨withTables es key before, header⟩ (.tables [] key) =
        some ⟨es ++ [(key, .tables (before ++ [[]]))], [key]⟩ := by
      show (openTables key (withTables es key before)).bind _ = _
      rw [openTables_withTables h]
      rfl
    have hpairs := foldlM_pairs (place_tables h before) [] hfields
      (fun f _ e he => absurd he List.not_mem_nil)
    rw [List.nil_append] at hpairs
    obtain ⟨header', hmore⟩ := ih [key] hdistinct (before ++ [fields.map Field.entry])
    have hput : withTables es key (before ++ [fields.map Field.entry]) =
        es ++ [(key, .tables (before ++ [fields.map Field.entry]))] := by
      cases before <;> rfl
    rw [hput, List.append_assoc] at hmore
    refine ⟨header', ?_⟩
    rw [List.flatMap_cons, List.cons_append, List.foldlM_cons, hopen]
    show List.foldlM apply _ _ = _
    rw [List.foldlM_append, hpairs]
    exact hmore

/-- **Headers in double brackets** gather the pairs behind each of them in a list of tables. -/
theorem foldlM_tables (elements : List (List Field)) (hne : elements ≠ []) (header : List String)
    (hdistinct : ∀ fields ∈ elements, fields.Pairwise fun f g => f.name ≠ g.name) :
    ∃ header', (elements.flatMap fun fields => Statement.tables [] key ::
        fields.map fun f => Statement.pair [] f.name f.node).foldlM apply ⟨es, header⟩ =
      some ⟨es ++ [(key, .tables (elements.map (·.map Field.entry)))], header'⟩ := by
  obtain ⟨header', hread⟩ := foldlM_withTables h header hdistinct []
  rcases elements with _ | ⟨fields, elements⟩
  · exact absurd rfl hne
  · exact ⟨header', hread⟩

/-- **A header in single brackets** gathers the pairs behind it in a table. -/
theorem foldlM_table (fields : List Field) (header : List String)
    (hdistinct : fields.Pairwise fun f g => f.name ≠ g.name) :
    (Statement.table [] key :: fields.map fun f => Statement.pair [] f.name f.node).foldlM apply
        ⟨es, header⟩ =
      some ⟨es ++ [(key, .table .header (fields.map Field.entry))], [key]⟩ := by
  have hopen : apply ⟨es, header⟩ (.table [] key) =
      some ⟨es ++ [(key, .table .header [])], [key]⟩ := by
    show (openTable key es).bind _ = _
    unfold openTable
    rw [alter_of_lacks h]
    rfl
  have hpairs := foldlM_pairs (place_table h) [] hdistinct
    (fun f _ e he => absurd he List.not_mem_nil)
  rw [List.foldlM_cons, hopen]
  exact hpairs

end Headers

end Statement

end StorageAdapter.Toml
