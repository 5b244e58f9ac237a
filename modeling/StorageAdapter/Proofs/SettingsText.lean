import StorageAdapter.Proofs.Document

/-! # Settings as text

The text of settings is a document of pairs (`textOf_settingsLines`), its lines build a tree with an
entry for each setting (`build_settingsLines`), and from that tree the settings are read
(`settingsOf?_settingsRoot`). So settings are read back from the text that is written for them,
whatever is in their names, paths and passphrase (`readSettings_settingsText`). -/

namespace StorageAdapter

theorem HostKind.ofWord?_word (k : HostKind) : ofWord? k.word = some k := by
  cases k <;> decide

theorem AccessMode.ofWord?_word (m : AccessMode) : ofWord? m.word = some m := by
  cases m <;> decide

namespace Toml

open Reader

/-! ### The pairs of settings -/

def textField (name text : String) : Field := ⟨name, Quoted.write text, .string text⟩

def booleanField (name : String) (b : Bool) : Field := ⟨name, boolText b, .boolean b⟩

def byteField (name : String) (b : UInt8) : Field := ⟨name, toString b.toNat, .integer b.toNat⟩

def switchesField (name : String) (bs : List Bool) : Field :=
  ⟨name, switchesText bs, .array (bs.map .boolean)⟩

section Fields

variable {name : String} (h : BareKey name)
include h

theorem isRead_textField (text : String) : (textField name text).IsRead where
  name := h
  start := by
    have hwrite : ∀ cs, NotBefore isSpace (Quoted.writeChars cs) := by
      intro cs
      unfold Quoted.writeChars
      split_ifs <;> exact notBefore_cons rfl _
    show NotBefore isSpace (String.ofList (Quoted.writeChars text.toList)).toList
    rw [String.toList_ofList]
    exact hwrite _
  read rest := reads_value (reads_string text (notBefore_cons rfl rest)) _

theorem isRead_booleanField (b : Bool) : (booleanField name b).IsRead where
  name := h
  start := by
    rcases b with _ | _
    · show NotBefore isSpace "false".toList
      exact notBefore_cons rfl _
    · show NotBefore isSpace "true".toList
      exact notBefore_cons rfl _
  read rest := reads_value (reads_boolean b ('\n' :: rest)) _

theorem isRead_byteField (b : UInt8) : (byteField name b).IsRead where
  name := h
  start := by
    show NotBefore isSpace (String.ofList (Nat.toDigits 10 b.toNat)).toList
    obtain ⟨c, cs, hcs, -⟩ := toDigits_eq_cons b.toNat
    have hc : Number.isDigit 10 c = true := isDigit_of_mem_toDigits (hcs ▸ List.mem_cons_self)
    rw [String.toList_ofList, hcs]
    refine notBefore_cons ?_ _
    simp [isSpace, ne_of_isDigit hc (d := ' ') rfl, ne_of_isDigit hc (d := '\t') rfl]
  read rest := reads_value (reads_byte b rest) _

theorem isRead_switchesField (bs : List Bool) : (switchesField name bs).IsRead where
  name := h
  start := by
    show NotBefore isSpace (switchesText bs).toList
    unfold switchesText
    rw [String.toList_append, String.toList_append]
    exact notBefore_cons rfl _
  read rest := reads_switches _ bs ('\n' :: rest)

end Fields

def hostFields (h : HostSettings) : List Field :=
  [textField "name" h.name, textField "kind" h.kind.word]

def mountFields (m : DiskSettings) : List Field :=
  (m.hostSlot.map (byteField "host_slot")).toList ++
    [textField "path" m.path, textField "mode" m.mode.word]

def wifiFields (w : WifiSettings) : List Field :=
  [booleanField "enabled" w.enabled, textField "ssid" w.ssid, textField "passphrase" w.passphrase]

/-- The pairs before the first header. -/
def rootFields (s : Settings) : List Field :=
  [booleanField "boot_config" s.bootConfig, byteField "boot_device" s.bootDevice,
    switchesField "device_enabled" s.switches.toList]

theorem isRead_hostFields (h : HostSettings) : ∀ f ∈ hostFields h, f.IsRead := by
  simp only [hostFields, List.forall_mem_cons]
  exact ⟨isRead_textField (by decide) _, isRead_textField (by decide) _, nofun⟩

theorem isRead_mountFields (m : DiskSettings) : ∀ f ∈ mountFields m, f.IsRead := by
  have hpath : (textField "path" m.path).IsRead := isRead_textField (by decide) _
  have hmode : (textField "mode" m.mode.word).IsRead := isRead_textField (by decide) _
  rcases m with ⟨_ | slot, path, mode⟩
  · simp only [mountFields, Option.map_none, Option.toList_none, List.nil_append,
      List.forall_mem_cons]
    exact ⟨hpath, hmode, nofun⟩
  · simp only [mountFields, Option.map_some, Option.toList_some, List.singleton_append,
      List.forall_mem_cons]
    exact ⟨isRead_byteField (by decide) _, hpath, hmode, nofun⟩

theorem isRead_wifiFields (w : WifiSettings) : ∀ f ∈ wifiFields w, f.IsRead := by
  simp only [wifiFields, List.forall_mem_cons]
  exact ⟨isRead_booleanField (by decide) _, isRead_textField (by decide) _,
    isRead_textField (by decide) _, nofun⟩

theorem isRead_rootFields (s : Settings) : ∀ f ∈ rootFields s, f.IsRead := by
  simp only [rootFields, List.forall_mem_cons]
  exact ⟨isRead_booleanField (by decide) _, isRead_byteField (by decide) _,
    isRead_switchesField (by decide) _, nofun⟩

/-! ### The lines of settings -/

/-- The lines of a table in a list of tables. -/
def elementLines (key : String) (fields : List Field) : List Line :=
  Line.blank :: Line.headers key :: fields.map Field.line

/-- The lines of the file. -/
def settingsLines (s : Settings) : List Line :=
  (rootFields s).map Field.line ++
    s.hosts.toList.flatMap (fun h => elementLines "hosts" (hostFields h)) ++
    s.mounts.toList.flatMap (fun m => elementLines "mounts" (mountFields m)) ++
    (Line.blank :: Line.header "wifi" :: (wifiFields s.wifi).map Field.line)

theorem isRead_elementLines {key : String} (hkey : BareKey key) {fields : List Field}
    (h : ∀ f ∈ fields, f.IsRead) : ∀ l ∈ elementLines key fields, l.IsRead := by
  unfold elementLines
  rw [List.forall_mem_cons, List.forall_mem_cons]
  exact ⟨Line.isRead_blank, Line.isRead_headers hkey, Field.isRead_lines h⟩

theorem isRead_settingsLines (s : Settings) : ∀ l ∈ settingsLines s, l.IsRead := by
  intro l hl
  simp only [settingsLines, List.mem_append, List.mem_flatMap, List.mem_cons] at hl
  rcases hl with ((hl | ⟨h, -, hl⟩) | ⟨m, -, hl⟩) | rfl | rfl | hl
  · exact Field.isRead_lines (isRead_rootFields s) l hl
  · exact isRead_elementLines (by decide) (isRead_hostFields h) l hl
  · exact isRead_elementLines (by decide) (isRead_mountFields m) l hl
  · exact Line.isRead_blank
  · exact Line.isRead_header (by decide)
  · exact Field.isRead_lines (isRead_wifiFields s.wifi) l hl

theorem textOf_append (xs ys : List Line) :
    Line.textOf (xs ++ ys) = Line.textOf xs ++ Line.textOf ys := List.flatMap_append

theorem textOf_host (h : HostSettings) :
    Line.textOf (elementLines "hosts" (hostFields h)) = (hostText h).toList := by
  simp [Line.textOf, elementLines, hostFields, Line.blank, Line.headers, Field.line, textField,
    hostText]

theorem textOf_mount (m : DiskSettings) :
    Line.textOf (elementLines "mounts" (mountFields m)) = (mountText m).toList := by
  rcases m with ⟨_ | slot, path, mode⟩ <;>
    simp [Line.textOf, elementLines, mountFields, Line.blank, Line.headers, Field.line, textField,
      byteField, mountText, hostSlotLine]

/-- **The lines make up the text of the file.** -/
theorem textOf_settingsLines (s : Settings) :
    Line.textOf (settingsLines s) = (settingsText s).toList := by
  have hhosts : Line.textOf (s.hosts.toList.flatMap fun h => elementLines "hosts" (hostFields h)) =
      (String.join (s.hosts.toList.map hostText)).toList := by
    rw [String.toList_join, List.flatMap_map, Line.textOf, List.flatMap_assoc]
    exact congrArg (List.flatMap · _) (funext textOf_host)
  have hmounts :
      Line.textOf (s.mounts.toList.flatMap fun m => elementLines "mounts" (mountFields m)) =
        (String.join (s.mounts.toList.map mountText)).toList := by
    rw [String.toList_join, List.flatMap_map, Line.textOf, List.flatMap_assoc]
    exact congrArg (List.flatMap · _) (funext textOf_mount)
  have hroot : Line.textOf ((rootFields s).map Field.line) =
      (pairLine "boot_config" (boolText s.bootConfig) ++
        pairLine "boot_device" (toString s.bootDevice.toNat) ++
        pairLine "device_enabled" (switchesText s.switches.toList)).toList := by
    simp [Line.textOf, rootFields, Field.line, booleanField, byteField, switchesField]
  have hwifi :
      Line.textOf (Line.blank :: Line.header "wifi" :: (wifiFields s.wifi).map Field.line) =
        (wifiText s.wifi).toList := by
    simp [Line.textOf, wifiFields, Line.blank, Line.header, Field.line, textField, booleanField,
      wifiText]
  unfold settingsLines settingsText
  rw [textOf_append, textOf_append, textOf_append, hroot, hhosts, hmounts, hwifi]
  simp only [String.toList_append]

/-! ### The tree of settings -/

/-- The tree that the file describes. -/
def settingsRoot (s : Settings) : Entries :=
  (rootFields s).map Field.entry ++
    [("hosts", .tables (s.hosts.toList.map fun h => (hostFields h).map Field.entry)),
      ("mounts", .tables (s.mounts.toList.map fun m => (mountFields m).map Field.entry)),
      ("wifi", .table .header ((wifiFields s.wifi).map Field.entry))]

/-- What the lines say, line by line. -/
theorem statements_settingsLines (s : Settings) :
    ((settingsLines s).map Line.statement).filterMap id =
      ((rootFields s).map fun f => Statement.pair [] f.name f.node) ++
        ((s.hosts.toList.map hostFields).flatMap fun fields => Statement.tables [] "hosts" ::
          fields.map fun f => Statement.pair [] f.name f.node) ++
        ((s.mounts.toList.map mountFields).flatMap fun fields => Statement.tables [] "mounts" ::
          fields.map fun f => Statement.pair [] f.name f.node) ++
        (Statement.table [] "wifi" ::
          (wifiFields s.wifi).map fun f => Statement.pair [] f.name f.node) := by
  have helement (key : String) (fields : List Field) :
      (elementLines key fields).filterMap Line.statement =
        Statement.tables [] key :: fields.map fun f => Statement.pair [] f.name f.node := by
    rw [← Field.statement_lines]
    rfl
  have helements {α : Type} (key : String) (fieldsOf : α → List Field) (l : List α) :
      (l.flatMap fun a => elementLines key (fieldsOf a)).filterMap Line.statement =
        (l.map fieldsOf).flatMap fun fields => Statement.tables [] key ::
          fields.map fun f => Statement.pair [] f.name f.node := by
    rw [List.filterMap_flatMap, List.flatMap_map]
    exact congrArg (List.flatMap · l) (funext fun a => helement key (fieldsOf a))
  have hwifi : (Line.blank :: Line.header "wifi" ::
      (wifiFields s.wifi).map Field.line).filterMap Line.statement =
        Statement.table [] "wifi" ::
          (wifiFields s.wifi).map fun f => Statement.pair [] f.name f.node := by
    rw [← Field.statement_lines]
    rfl
  rw [List.filterMap_map]
  unfold settingsLines
  show List.filterMap Line.statement _ = _
  rw [List.filterMap_append, List.filterMap_append, List.filterMap_append,
    Field.statement_lines, helements, helements, hwifi]

theorem pairwise_mountFields (m : DiskSettings) :
    (mountFields m).Pairwise fun f g => f.name ≠ g.name := by
  rcases m with ⟨_ | slot, path, mode⟩ <;> simp [mountFields, textField, byteField]

/-- **The statements build the tree of the settings.** -/
theorem build_settingsLines (s : Settings) :
    Statement.build (((settingsLines s).map Line.statement).filterMap id) =
      some (settingsRoot s) := by
  -- the tree before each of the headers
  set root := (rootFields s).map Field.entry with hroot
  set hosts := (s.hosts.toList.map hostFields).map (·.map Field.entry) with hhosts
  set mounts := (s.mounts.toList.map mountFields).map (·.map Field.entry) with hmounts
  have hlacksHosts : Entries.Lacks root "hosts" := by
    simp [hroot, Entries.Lacks, rootFields, Field.entry, booleanField, byteField, switchesField]
  have hlacksMounts : Entries.Lacks (root ++ [("hosts", .tables hosts)]) "mounts" := by
    simp [hroot, Entries.Lacks, rootFields, Field.entry, booleanField, byteField, switchesField]
  have hlacksWifi : Entries.Lacks
      (root ++ [("hosts", .tables hosts)] ++ [("mounts", .tables mounts)]) "wifi" := by
    simp [hroot, Entries.Lacks, rootFields, Field.entry, booleanField, byteField, switchesField]
  have hdistinct : (rootFields s).Pairwise fun f g => f.name ≠ g.name := by
    simp [rootFields, booleanField, byteField, switchesField]
  have hpairs := Statement.foldlM_pairs Entries.place_root [] hdistinct
    (fun f _ e he => absurd he List.not_mem_nil)
  obtain ⟨afterHosts, hhostsRead⟩ := Statement.foldlM_tables hlacksHosts
    (s.hosts.toList.map hostFields) (by simp) []
    (by simp [hostFields, textField])
  obtain ⟨afterMounts, hmountsRead⟩ := Statement.foldlM_tables hlacksMounts
    (s.mounts.toList.map mountFields) (by simp) afterHosts
    (by simpa using fun m _ => pairwise_mountFields m)
  have hwifiRead := Statement.foldlM_table hlacksWifi (wifiFields s.wifi) afterMounts
    (by simp [wifiFields, booleanField, textField])
  have hbuild : (((settingsLines s).map Line.statement).filterMap id).foldlM Statement.apply {} =
      some ⟨root ++ [("hosts", .tables hosts)] ++ [("mounts", .tables mounts)] ++
        [("wifi", .table .header ((wifiFields s.wifi).map Field.entry))], ["wifi"]⟩ := by
    rw [statements_settingsLines, List.foldlM_append, List.foldlM_append, List.foldlM_append]
    refine Option.bind_eq_some_iff.2 ⟨_, Option.bind_eq_some_iff.2 ⟨_,
      Option.bind_eq_some_iff.2 ⟨_, hpairs, hhostsRead⟩, hmountsRead⟩, hwifiRead⟩
  unfold Statement.build
  rw [hbuild]
  show some _ = some (settingsRoot s)
  unfold settingsRoot
  simp [hhosts, hmounts, hroot]

/-! ### Reading the tree -/

theorem byte?_integer (b : UInt8) : (Node.integer b.toNat).byte? = some b := by
  have hb := b.toNat_lt
  simp only [Node.byte?]
  rw [if_pos (by omega)]
  simp

theorem hostOf?_hostFields (h : HostSettings) :
    hostOf? (.table .header ((hostFields h).map Field.entry)) = some h := by
  have hkind := HostKind.ofWord?_word h.kind
  simp [hostOf?, Record.of?, Record.read, Record.member?, Entries.get?, hostFields, Field.entry,
    textField, Node.string?, Node.word?, hkind, List.lookup_cons]

theorem mountOf?_mountFields (m : DiskSettings) :
    mountOf? (.table .header ((mountFields m).map Field.entry)) = some m := by
  have hmode := AccessMode.ofWord?_word m.mode
  rcases m with ⟨_ | slot, path, mode⟩
  · simp [mountOf?, Record.of?, Record.read, Record.member?, Entries.get?, mountFields, Field.entry,
      textField, Node.string?, Node.word?, hmode, List.lookup_cons]
  · have hslot := byte?_integer slot
    simp [mountOf?, Record.of?, Record.read, Record.member?, Entries.get?, mountFields, Field.entry,
      textField, byteField, Node.string?, Node.word?, hmode, hslot, List.lookup_cons]

theorem wifiOf?_wifiFields (w : WifiSettings) :
    wifiOf? (.table .header ((wifiFields w).map Field.entry)) = some w := by
  simp [wifiOf?, Record.of?, Record.read, Record.member?, Entries.get?, wifiFields, Field.entry,
    textField, booleanField, Node.string?, Node.bool?, List.lookup_cons]

/-- A table of slots is read from the first values of a list, if there are enough of them. -/
theorem slotsOf?_of_items {α : Type} {decode : Node → Option α} {n : Node} {items : List Node}
    {xs : List α} (hlist : n.list? = some items) (hread : items.map decode = xs.map some) :
    slotsOf? decode n =
      if h : 8 ≤ xs.length then some (Vector.ofFn fun i => xs[i.val]) else none := by
  have hitems {items : List Node} {xs : List α} (hread : items.map decode = xs.map some) :
      items.mapM decode = some xs := by
    induction items generalizing xs with
    | nil =>
      obtain rfl : xs = [] := List.map_eq_nil_iff.1 hread.symm
      rfl
    | cons n items ih =>
      obtain ⟨a, xs, rfl, ha, hxs⟩ := List.map_eq_cons_iff.1 hread.symm
      rw [List.mapM_cons, ← ha, ih hxs.symm]
      rfl
  have htake : (items.take 8).map decode = (xs.take 8).map some := by
    rw [List.map_take, hread, List.map_take]
  unfold slotsOf?
  simp only [hlist, Option.bind_eq_bind, Option.bind_some, hitems htake]
  by_cases hlength : 8 ≤ xs.length
  · have height : (xs.take 8).length = 8 := by simp [hlength]
    rw [dif_pos height, dif_pos hlength]
    refine congrArg some (Vector.ext fun i hi => ?_)
    simp
  · have hshort : (xs.take 8).length ≠ 8 := by
      rw [List.length_take]
      omega
    rw [dif_neg hshort, dif_neg hlength]

/-- A table of slots is read from as many values. -/
theorem slotsOf?_eq {α : Type} {decode : Node → Option α} {n : Node} {write : α → Node}
    {xs : Slots α} (hlist : n.list? = some (xs.toList.map write))
    (hread : ∀ a, decode (write a) = some a) : slotsOf? decode n = some xs := by
  have hitems : (xs.toList.map write).map decode = xs.toList.map some := by
    rw [List.map_map]
    exact congrArg (List.map · _) (funext hread)
  have hlength : 8 ≤ xs.toList.length := Nat.le_of_eq xs.length_toList.symm
  rw [slotsOf?_of_items hlist hitems, dif_pos hlength]
  refine congrArg some (Vector.ext fun i hi => ?_)
  simp

/-- **The settings are read from their tree.** -/
theorem settingsOf?_settingsRoot (s : Settings) : settingsOf? (settingsRoot s) = some s := by
  have hhosts : slotsOf? hostOf?
      (.tables (s.hosts.toList.map fun h => (hostFields h).map Field.entry)) = some s.hosts :=
    slotsOf?_eq (by simp [Node.list?]) hostOf?_hostFields
  have hmounts : slotsOf? mountOf?
      (.tables (s.mounts.toList.map fun m => (mountFields m).map Field.entry)) = some s.mounts :=
    slotsOf?_eq (by simp [Node.list?]) mountOf?_mountFields
  have hswitches : slotsOf? Node.bool? (.array (s.switches.toList.map .boolean)) =
      some s.switches :=
    slotsOf?_eq rfl fun _ => rfl
  have hwifi := wifiOf?_wifiFields s.wifi
  have hdevice := byte?_integer s.bootDevice
  simp [settingsOf?, settingsRoot, rootFields, booleanField, byteField, switchesField, Field.entry,
    Record.read, Record.member?, Entries.get?, List.lookup_cons, Node.bool?, hhosts, hmounts, hwifi,
    hdevice, hswitches]

/-- Settings are read from the tree of what the text says. -/
theorem readSettings_of_reads {text : String} {statements : List Statement} {root : Entries}
    (hread : Reads Statement.readAll text.toList statements [])
    (hbuild : Statement.build statements = some root) : readSettings text = settingsOf? root := by
  unfold readSettings parse
  show ((Statement.readAll text.toList).bind _).bind _ = _
  rw [hread]
  show (Statement.build _).bind _ = _
  rw [hbuild]
  rfl

/-- **Settings are read back from the text that is written for them.** -/
theorem readSettings_settingsText (s : Settings) : readSettings (settingsText s) = some s := by
  have hmark : Refuses Statement.byteOrderMark (settingsText s).toList := by
    simp only [settingsText, pairLine, String.toList_append, List.append_assoc]
    exact refuses_char (c := Char.ofNat 0xFEFF) (d := 'b') (by decide) _
  have hread := Line.reads_readAll (isRead_settingsLines s) (textOf_settingsLines s ▸ hmark)
  rw [textOf_settingsLines] at hread
  rw [readSettings_of_reads hread (build_settingsLines s)]
  exact settingsOf?_settingsRoot s

end Toml

end StorageAdapter
