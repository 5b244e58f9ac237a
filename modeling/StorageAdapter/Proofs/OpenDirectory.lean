import StorageAdapter.Memory.Adapter
import StorageAdapter.Proofs.FrontEnds

/-! # Opening a directory

A caller that sends an opcode puts a NUL between the path and the pattern; on a command line there
is a tilde, and a slash before it is dropped. The bytes on both sides are read as the same texts
either way (`splitPath_place`), and hosts in memory pay no heed to a slash at the end of a path
(`treePath_dropLastEq`). So the same listing is opened, and every reading finds the same in it
(`directory_opened_alike`). -/

namespace StorageAdapter

open StorageAdapter.Action StorageAdapter.Device

/-! ### Paths in memory -/

namespace Memory

theorem withoutSlashes_dropLastEq (cs : List Char) :
    withoutSlashes (Text.dropLastEq '/' cs) = withoutSlashes cs := by
  unfold Text.dropLastEq
  split
  · next h =>
    obtain ⟨cs, rfl⟩ : ∃ ds, cs = ds ++ ['/'] := List.getLast?_eq_some_iff.1 h
    unfold withoutSlashes
    rw [List.dropLast_concat, List.reverse_concat, List.dropWhile_cons_of_pos (by decide)]
  · rfl

theorem treePath_dropLastEq (s : String) :
    treePath (String.ofList (Text.dropLastEq '/' s.toList)) = treePath s := by
  unfold treePath
  rw [String.toList_ofList, withoutSlashes_dropLastEq]

theorem list_eq_of_treePath {path path' : String} (h : treePath path = treePath path')
    (root : String) (pattern : Option String) (w : Storage) :
    HostStorage.list root path pattern w = HostStorage.list root path' pattern w := by
  show listTree (w.hosts.tree root) path pattern = listTree (w.hosts.tree root) path' pattern
  unfold listTree
  rw [h]

variable {D : Type}

/-- Paths that are the same in the tree open the same listing, and an empty pattern is none. -/
theorem openDirectory_eq {path path' : String} (hpath : treePath path = treePath path')
    {pattern pattern' : Option String}
    (hpattern : pattern.filter (· != "") = pattern'.filter (· != "")) (slot : UInt8) :
    (Rack.openDirectory slot path pattern : Action (Rack Storage String D) Unit) =
      Rack.openDirectory slot path' pattern' := by
  unfold Rack.openDirectory Mounted.openListing
  simp only [hpattern, list_eq_of_treePath hpath]

end Memory

/-! ### The two forms -/

namespace OpenDirectory

/-- The byte between path and pattern on a command line. -/
def tilde : UInt8 := 126

/-- The data behind the opcode. -/
def data (host : UInt8) (path : Bytes) (pattern : Option Bytes) : Bytes :=
  host :: (path ++ pattern.elim [] (0 :: ·))

/-- The second parameter of the command line. -/
def place (path : Bytes) (pattern : Option Bytes) : Bytes :=
  path ++ pattern.elim [] (tilde :: ·)

/-- The command line. -/
def line (host : UInt8) (path : Bytes) (pattern : Option Bytes) : Bytes :=
  Line.write "OPENDIR" [Line.decimal host, place path pattern]

/-- What both forms can express: the bytes that separate stand in none of the parts, and the line
does not seem to end earlier. -/
structure Expressible (host : UInt8) (path : Bytes) (pattern : Option Bytes) : Prop where
  nul_notMem : 0 ∉ path
  comma_notMem : Line.comma ∉ path
  tilde_notMem : tilde ∉ path
  pattern_plain : ∀ p, pattern = some p → 0 ∉ p ∧ Line.comma ∉ p
  unended : Line.Unended (line host path pattern)

variable {host : UInt8} {path : Bytes} {pattern : Option Bytes}

/-- The bytes around a NUL are read apart. -/
theorem ofField_data (h : Expressible host path pattern) :
    Text.ofField (path ++ pattern.elim [] (0 :: ·)) = Text.decodeLossy path ∧
      (Bytes.afterNul (path ++ pattern.elim [] (0 :: ·))).map Text.ofField =
        pattern.map Text.decodeLossy := by
  unfold Text.ofField
  rcases pattern with _ | p
  · rw [Option.elim_none, List.append_nil, Text.beforeNul_of_notMem h.nul_notMem,
      Text.afterNul_of_notMem h.nul_notMem]
    exact ⟨rfl, rfl⟩
  · rw [Option.elim_some, Text.beforeNul_append h.nul_notMem, Text.afterNul_append h.nul_notMem]
    refine ⟨rfl, ?_⟩
    rw [Option.map_some, Option.map_some, Text.beforeNul_of_notMem (h.pattern_plain p rfl).1]

/-- The bytes around a tilde are read as a whole and then split. -/
theorem splitPath_place (h : Expressible host path pattern) :
    Text.splitPath '~' (Text.decodeLossy (place path pattern)) =
      (String.ofList (Text.dropLastEq '/' (Text.decodeLossy path).toList),
        (pattern.map Text.decodeLossy).getD "") := by
  unfold place
  rcases pattern with _ | p
  · rw [Option.elim_none, List.append_nil]
    exact Text.splitPath_decodeLossy (b := tilde) (by decide) (by decide) h.tilde_notMem
  · exact Text.splitPath_decodeLossy_append (b := tilde) (by decide) (by decide) h.tilde_notMem p

theorem legible_line (h : Expressible host path pattern) :
    Line.Legible "OPENDIR" [Line.decimal host, place path pattern] where
  colon_notMem := by decide +kernel
  comma_notMem := by decide +kernel
  ne_nil := List.cons_ne_nil _ _
  plain a ha := by
    simp only [List.mem_cons, List.not_mem_nil, or_false] at ha
    obtain rfl | rfl := ha
    · exact Line.comma_notMem_decimal host
    · unfold place
      rcases pattern with _ | p
      · simpa using h.comma_notMem
      · simpa [h.comma_notMem, (h.pattern_plain p rfl).2] using by decide
  unended := h.unended

theorem command_line (h : Expressible host path pattern) :
    (Line.parse (line host path pattern)).command = some .openDir := by
  unfold line
  rw [(legible_line h).command_write]
  decide +kernel

variable {D : Type} [DriveBay D]

omit [DriveBay D] in
theorem openDirectoryOf_data (h : Expressible host path pattern) :
    (openDirectoryOf (data host path pattern) : Action (Device Memory.Storage String D) Unit) =
      onRack (Rack.openDirectory host (Text.decodeLossy path) (pattern.map Text.decodeLossy)) := by
  obtain ⟨hpath, hpattern⟩ := ofField_data h
  show onRack (Rack.openDirectory host (Text.ofField _) ((Bytes.afterNul _).map Text.ofField)) = _
  rw [hpath, hpattern]

theorem answerLine_line (h : Expressible host path pattern) :
    (answerLine .openDir (Line.parse (line host path pattern)) :
        Action (Device Memory.Storage String D) Answer) = (do
      onRack (Rack.openDirectory host (Text.decodeLossy path) (pattern.map Text.decodeLossy))
      return {}) := by
  have hparams : (Line.parse (line host path pattern)).params =
      [Text.decodeLossy (Line.decimal host), Text.decodeLossy (place path pattern)] :=
    (legible_line h).params_write
  have hcount : atLeast 2 (Line.parse (line host path pattern)) = .ok () := by
    unfold atLeast Line.paramCount
    rw [hparams]
    rfl
  have hslot : slotParameter (Line.parse (line host path pattern)) 0 = .ok host :=
    slotParameter_of_written (Line.written_decimal host) (parameter_of_params hparams rfl)
  have hplace : parameter (Line.parse (line host path pattern)) 1 =
      .ok (Text.decodeLossy (place path pattern)) := parameter_of_params hparams rfl
  show openDirectoryAnswer (Line.parse (line host path pattern)) = _
  unfold openDirectoryAnswer
  rw [hcount, hslot, hplace]
  simp only [lift_ok_bind, splitPath_place h]
  -- the slash that was dropped makes no difference in memory, and no pattern is an empty one
  rw [Memory.openDirectory_eq (Memory.treePath_dropLastEq _)]
  rcases pattern with _ | p <;> rfl

/-- **The two forms open the same directory**, or fail in the same way. -/
theorem sameOutcome_open (h : Expressible host path pattern)
    {d : Device Memory.Storage String D} (hd : d.pending = .idle) :
    SameOutcome
      (receive (data host path pattern) (receive (ClientCommand.openFrame .openDirectory) d).2)
      (receive (line host path pattern) d) := by
  have hact : answerOpcodeWithData .openDirectory (data host path pattern) =
      some (silently (openDirectoryOf (data host path pattern)) :
        Action (Device Memory.Storage String D) Bytes) := rfl
  have hdata : data host path pattern ≠ [] := List.cons_ne_nil _ _
  have hp : (ClientCommand.line (line host path pattern)).WellFormed :=
    wellFormed_write (by decide +kernel) _
  rw [receive_opcodeWithData rfl hdata hact hd,
    receive_command hp (command_line h) (by decide) hd, openDirectoryOf_data h, answerLine_line h]
  exact sameOutcome_silent _ _ d

end OpenDirectory

/-! ### Reading entries -/

namespace ReadEntry

/-- The command line that reads an entry. -/
def line (limit options : UInt8) : Bytes :=
  Line.write "READDIR" [Line.decimal limit, Line.decimal options]

theorem legible_line (limit options : UInt8) :
    Line.Legible "READDIR" [Line.decimal limit, Line.decimal options] where
  colon_notMem := by decide +kernel
  comma_notMem := by decide +kernel
  ne_nil := List.cons_ne_nil _ _
  plain a ha := by
    simp only [List.mem_cons, List.not_mem_nil, or_false] at ha
    obtain rfl | rfl := ha <;> exact Line.comma_notMem_decimal _
  unended := Line.unended_spell (Line.unended_decimal options) (Text.encode "READDIR")
    [Line.decimal limit]

theorem command_line (limit options : UInt8) :
    (Line.parse (line limit options)).command = some .readDir := by
  unfold line
  rw [(legible_line limit options).command_write]
  decide +kernel

theorem answerLine_line {W R D : Type} [HostStorage W R] [SettingsStore W] [KeyStorage W]
    [DriveBay D] (limit options : UInt8) :
    (answerLine .readDir (Line.parse (line limit options)) : Action (Device W R D) Answer) = (do
      return { data := ← onRack (Rack.readDirectory limit options), message := "" }) := by
  have hparams : (Line.parse (line limit options)).params =
      [Text.decodeLossy (Line.decimal limit), Text.decodeLossy (Line.decimal options)] :=
    (legible_line limit options).params_write
  have hlimit : parameter (Line.parse (line limit options)) 0 =
      .ok (Text.decodeLossy (Line.decimal limit)) := parameter_of_params hparams rfl
  have hoptions : (Line.parse (line limit options)).param 1 =
      some (Text.decodeLossy (Line.decimal options)) := by
    unfold Line.param
    rw [hparams]
    rfl
  show readEntryAnswer (Line.parse (line limit options)) = _
  unfold readEntryAnswer
  simp only [hlimit, hoptions, lift_ok_bind, Line.byteArgument_decimal]

end ReadEntry

/-- Reading an entry yields the same on both devices, by an opcode, by a command line, or by one
here and the other there. -/
structure ReadAlike {W R D : Type} [HostStorage W R] [SettingsStore W] [KeyStorage W] [DriveBay D]
    (d e : Device W R D) : Prop where
  opcode : ∀ data, data ≠ [] →
    SameAnswer (receive data (receive (ClientCommand.openFrame .readDirEntry) d).2).1
      (receive data (receive (ClientCommand.openFrame .readDirEntry) e).2).1
  line : ∀ payload, (ClientCommand.line payload).WellFormed →
    (Line.parse payload).command = some .readDir →
    SameAnswer (receive payload d).1 (receive payload e).1
  across : ∀ limit options,
    let x := (receive [limit, options] (receive (ClientCommand.openFrame .readDirEntry) d).2).1
    let y := (receive (ReadEntry.line limit options) e).1
    x.status.code = y.status.code ∧ (x.status.code = Error.successCode → x.data = y.data)

theorem SameButStatus.readAlike {W R D : Type} [HostStorage W R] [SettingsStore W] [KeyStorage W]
    [DriveBay D] {d e : Device W R D} (h : SameButStatus d e) (hd : d.pending = .idle) :
    ReadAlike d e where
  opcode _ hdata := h.answer_opcodeWithData hd rfl hdata
  line _ hp hc := h.answer_line hd hp hc (by decide)
  across limit options := by
    have hp : (ClientCommand.line (ReadEntry.line limit options)).WellFormed :=
      wellFormed_write (by decide +kernel) _
    have hc := ReadEntry.command_line limit options
    -- both front ends on one device first, then the other device
    have hsame := h.answer_line hd hp hc (by decide)
    have hact : answerOpcodeWithData .readDirEntry [limit, options] =
        some (onRack (Rack.readDirectory limit options) : Action (Device W R D) Bytes) := rfl
    obtain ⟨hcode, hdata⟩ := sameOutcome_bytes
      (onRack (Rack.readDirectory limit options)) "" d
    rw [← ReadEntry.answerLine_line, ← receive_command hp hc (by decide) hd,
      ← receive_opcodeWithData rfl (List.cons_ne_nil _ _) hact hd] at hcode hdata
    exact ⟨hcode.code.trans hsame.code, fun hx => (hdata hx).trans hsame.data⟩

/-- **The opcode and the command line open the same directory**, for any bytes that both can
express: they succeed or fail alike and leave the same device but for the status. After any further
run from there, whether frames, resets, calls or changes from outside, every reading yields the
same. -/
theorem directory_opened_alike {D : Type} [DriveBay D] {d : Device Memory.Storage String D}
    (hd : d.pending = .idle) {host : UInt8} {path : Bytes} {pattern : Option Bytes}
    (h : OpenDirectory.Expressible host path pattern) :
    let x := receive (OpenDirectory.data host path pattern)
      (receive (ClientCommand.openFrame .openDirectory) d).2
    let y := receive (OpenDirectory.line host path pattern) d
    SameOutcome x y ∧ ∀ moves, SameButStatus (x.2.run moves) (y.2.run moves) ∧
      ((x.2.run moves).pending = .idle → ReadAlike (x.2.run moves) (y.2.run moves)) := by
  intro x y
  have hopen : SameOutcome x y := OpenDirectory.sameOutcome_open h hd
  exact ⟨hopen, fun moves => ⟨hopen.device.run moves, (hopen.device.run moves).readAlike⟩⟩

/-- A path with half a character before its slash, and a pattern that could end the character: the
directory is opened, and read alike. -/
theorem directory_opened_alike_malformed :
    let d : Memory.Adapter := ((Memory.Surroundings.start { storage := {
      hosts := ({} : Memory.Hosts).withFile "h" "/\uFFFD/\uFFFDa" 1 0
      config.stored := some {
        hosts := Slots.set (Vector.replicate 8 {}) 0 ⟨"h", .tnfs⟩ } } }).move
          (.call (.mountHost 0)))
    let path : Bytes := [0x2F, 0xE2, 0x82, 0x2F]
    let pattern : Option Bytes := some [0xAC, 0x2A]
    let x := receive (OpenDirectory.data 0 path pattern)
      (receive (ClientCommand.openFrame .openDirectory) d).2
    let y := receive (OpenDirectory.line 0 path pattern) d
    d.pending = .idle ∧ OpenDirectory.Expressible 0 path pattern ∧ SameOutcome x y ∧
      x.1.status.code = Error.successCode ∧ ReadAlike x.2 y.2 := by
  intro d path pattern x y
  have hd : d.pending = .idle := by decide +kernel
  have h : OpenDirectory.Expressible 0 path pattern := {
    nul_notMem := by decide
    comma_notMem := by decide
    tilde_notMem := by decide
    pattern_plain := fun p hp => by
      obtain rfl := Option.some.inj hp
      decide
    unended := fun b hb => by
      have hlast : (OpenDirectory.line 0 path pattern).getLast? = some 0x2A := by decide +kernel
      obtain rfl := Option.some.inj (hlast.symm.trans hb)
      decide }
  have hcode : x.1.status.code = Error.successCode := by decide +kernel
  have hidle : (x.2.run []).pending = .idle := by decide +kernel
  obtain ⟨hopen, hrun⟩ := directory_opened_alike hd h
  exact ⟨hd, h, hopen, hcode, (hrun []).2 hidle⟩

end StorageAdapter
