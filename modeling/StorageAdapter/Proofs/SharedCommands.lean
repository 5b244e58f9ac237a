import Mathlib.Data.List.Forall2
import StorageAdapter.Proofs.FrontEnds
import StorageAdapter.Proofs.Text

/-! # Commands that both front ends know

Opcode callers and line callers have fifteen commands in common. An opcode comes with its arguments
as bytes (`SharedCommand.opcode`), a line with a word for the command and its parameters in digits
or as they are (`SharedCommand.IsLine`). Both ask for the same thing (`serve_opcode`, `serve_line`);
so they have the same outcome, whatever the device holds. -/

namespace StorageAdapter

open StorageAdapter.Action StorageAdapter.Device

/-! ### Words -/

/-- A first word that stands for a command. -/
structure IsWord (word : Bytes) (command : Command) : Prop where
  colon_notMem : Line.colon ∉ word
  comma_notMem : Line.comma ∉ word
  unended : Line.Unended word
  command_eq : Command.ofKeyword? (Text.decodeLossy word) = some command

theorem Command.length_le_of_occursIn {word cs : List Char} (h : Command.occursIn word cs) :
    word.length ≤ cs.length := by
  induction cs with
  | nil =>
    have hnil : word = [] := by simpa [Command.occursIn] using h
    simp [hnil]
  | cons c cs ih =>
    simp only [Command.occursIn, Bool.or_eq_true] at h
    rcases h with h | h
    · exact (List.isPrefixOf_iff_prefix.1 h).length_le
    · have := ih h
      rw [List.length_cons]
      omega

/-- Every keyword has three letters at least. -/
theorem Command.lt_length_of_ofKeyword? {word : String} {command : Command}
    (h : Command.ofKeyword? word = some command) : 2 < word.toList.length := by
  have hkeywords : ∀ entry ∈ Command.keywords, 2 < entry.1.toList.length := by decide +kernel
  unfold Command.ofKeyword? at h
  obtain ⟨entry, hfind, -⟩ := Option.map_eq_some_iff.1 h
  have hfound := List.find?_some hfind
  have hoccurs := Command.length_le_of_occursIn hfound
  have hlong := hkeywords entry (List.mem_of_find?_eq_some hfind)
  rw [List.length_map] at hoccurs
  omega

theorem Text.length_decodeLossy_le (bs : Bytes) :
    (Text.decodeLossy bs).toList.length ≤ bs.length := by
  have h := Text.length_unitsFrom_le none bs
  unfold Text.decodeLossy Text.units
  simpa using h

/-- A word for a command is too long for an opcode frame. -/
theorem IsWord.wellFormed {word : Bytes} {command : Command} (h : IsWord word command)
    (rest : Bytes) : (ClientCommand.line (word ++ rest)).WellFormed := by
  have hletters := Command.lt_length_of_ofKeyword? h.command_eq
  have hbytes := Text.length_decodeLossy_le word
  have hlength : 2 < (word ++ rest).length := by
    rw [List.length_append]
    omega
  constructor
  · rintro hnil
    rw [hnil] at hlength
    simp at hlength
  · rintro code hframe
    rw [hframe] at hlength
    simp at hlength

/-! ### Reading the lines -/

section Reading

variable {word : Bytes} {command : Command} (h : IsWord word command) {ending : Bytes}
  (he : Line.IsEnd ending)
include h he

theorem IsWord.command_bare : (Line.parse (word ++ ending)).command = some command := by
  have hraw : (Line.parse (word ++ ending)).raw = word := by
    rw [Line.parse_append he]
    unfold Line.parse
    rw [Line.withoutEnd_of_unended h.unended]
    exact Line.replaceFirst_of_notMem h.colon_notMem
  unfold Line.command Line.keyword Line.fields
  rw [hraw, Text.splitAll_of_notMem h.comma_notMem]
  exact h.command_eq

variable {args : List Bytes} {a : Bytes} (ha : Line.Unended a)
include ha

theorem IsWord.command_spell :
    (Line.parse (Line.spell word (args ++ [a]) ++ ending)).command = some command := by
  unfold Line.command Line.keyword Line.fields
  rw [Line.raw_spell h.colon_notMem ha he, Text.splitAll_append h.comma_notMem]
  exact h.command_eq

variable (hargs : ∀ a ∈ args, Line.comma ∉ a)
include hargs

theorem IsWord.params_spell (hcomma : Line.comma ∉ a) :
    (Line.parse (Line.spell word (args ++ [a]) ++ ending)).params =
      (args ++ [a]).map Text.decodeLossy := by
  unfold Line.params
  rw [Line.fields_spell h.colon_notMem ha he h.comma_notMem hargs, Text.splitAll_of_notMem hcomma]
  rfl

end Reading

/-! ### The commands -/

/-- A command that both front ends know, with its arguments. -/
inductive SharedCommand where
  | mountHost (slot : UInt8)
  | unmountHost (slot : UInt8)
  | mountImage (slot mode : UInt8)
  | unmountImage (slot : UInt8)
  | setFilename (slot host mode : UInt8) (name : Bytes)
  | seekDirectory (position : UInt16)
  | readDirectory (limit options : UInt8)
  | setConfigBoot (value : UInt8)
  | setBootDevice (device : UInt8)
  | switchDevices (devices : List UInt8) (active : Bool)
  | openKey (creator : UInt16) (app key mode : UInt8)
  /-- The data of the key, and the length that lines give with it. -/
  | writeKey (length : UInt8) (data : Bytes)
  | readKey
  | closeKey
deriving DecidableEq, Repr

namespace SharedCommand

open Line (Parameter)

/-- The arguments can be told by both front ends: a name without NULs and commas, devices and data
that are there, a length that counts all data up to the longest key, and no line end at the end. -/
def Expressible : SharedCommand → Prop
  | setFilename _ _ _ name => 0 ∉ name ∧ Line.comma ∉ name ∧ Line.Unended name
  | switchDevices devices _ => devices ≠ []
  | writeKey length data =>
    data ≠ [] ∧ Line.Unended data ∧ min data.length AppKey.limit ≤ length.toNat
  | _ => True

/-- The command as an opcode. A name may end in a NUL, with anything behind it. -/
def opcode (behind : Option Bytes) : SharedCommand → ClientCommand
  | mountHost slot => .opcodeWithData .mountHost [slot]
  | unmountHost slot => .opcodeWithData .unmountHost [slot]
  | mountImage slot mode => .opcodeWithData .mountImage [slot, mode]
  | unmountImage slot => .opcodeWithData .unmountImage [slot]
  | setFilename slot host mode name =>
    .opcodeWithData .setDeviceFullpath
      (slot :: host :: mode :: (name ++ behind.elim [] fun bs => 0 :: bs))
  | seekDirectory position => .opcodeWithData .setDirectoryPosition (Bytes.ofWord position)
  | readDirectory limit options => .opcodeWithData .readDirEntry [limit, options]
  | setConfigBoot value => .opcodeWithData .configBoot [value]
  | setBootDevice device => .opcodeWithData .setBootDevice [device]
  | switchDevices devices active =>
    .opcodeWithData (if active then .enableDevice else .disableDevice) devices
  | openKey creator app key mode =>
    .opcodeWithData .openAppKey (Bytes.ofWord creator ++ [app, key, mode, 0])
  | writeKey _ data => .opcodeWithData .writeAppKey data
  | readKey => .opcode .readAppKey
  | closeKey => .opcode .closeAppKey

/-- The forms of the command as a line: what its word stands for, and its parameters in order. -/
def forms : SharedCommand → List (Command × List Parameter)
  | mountHost slot => [(.mountHost, [.decimal slot.toNat])]
  | unmountHost slot => [(.unmountHost, [.decimal slot.toNat])]
  | mountImage slot mode => [(.mountDrive, [.decimal slot.toNat, .decimal mode.toNat])]
  | unmountImage slot => [(.unmountDrive, [.decimal slot.toNat])]
  | setFilename slot host mode name =>
    [(.setDriveFilename,
      [.decimal slot.toNat, .decimal host.toNat, .decimal mode.toNat, .text name]),
     (.putDrive, [.decimal slot.toNat, .decimal host.toNat, .text name, .decimal mode.toNat])]
  | seekDirectory position => [(.setDirPos, [.decimal position.toNat])]
  | readDirectory limit options =>
    (.readDir, [.decimal limit.toNat, .decimal options.toNat]) ::
      if options = 0 then [(.readDir, [.decimal limit.toNat])] else []
  | setConfigBoot value => [(.bootConfig, [.decimal value.toNat])]
  | setBootDevice device => [(.bootMode, [.decimal device.toNat])]
  | switchDevices devices active =>
    [(if active then .enableDevice else .disableDevice, devices.map fun d => .decimal d.toNat)]
  | openKey creator app key mode =>
    [(.openAppKey, [.hexadecimal creator.toNat, .hexadecimal app.toNat, .hexadecimal key.toNat,
      .hexadecimal mode.toNat])]
  | writeKey length data => [(.writeAppKey, [.decimal length.toNat, .text data])]
  | readKey => [(.readAppKey, [])]
  | closeKey => [(.closeAppKey, [])]

/-- **The lines of a command**: a word, a colon and the parameters in one of its forms, perhaps with
a line end. Without parameters, the colon may be left out. -/
inductive IsLine (c : SharedCommand) : Bytes → Prop
  | spell {word : Bytes} {command : Command} {params : List Parameter} {tokens : List Bytes}
      {ending : Bytes} (hform : (command, params) ∈ c.forms) (hword : IsWord word command)
      (htokens : List.Forall₂ Parameter.Written params tokens) (hend : Line.IsEnd ending) :
    IsLine c (Line.spell word tokens ++ ending)
  | bare {word : Bytes} {command : Command} {ending : Bytes} (hform : (command, []) ∈ c.forms)
      (hword : IsWord word command) (hend : Line.IsEnd ending) : IsLine c (word ++ ending)

/-- What the command asks for. -/
def request : SharedCommand → Request
  | mountHost slot => .ok (some (.mountHost slot))
  | unmountHost slot => .ok (some (.unmountHost slot))
  | mountImage slot mode => .ok (some (.mountImage slot (AccessMode.ofByte mode)))
  | unmountImage slot => .ok (some (.unmountImage slot))
  | setFilename slot host mode name =>
    .ok (some (.setFilename slot host (AccessMode.ofByte mode) (Text.decodeLossy name)))
  | seekDirectory position => .ok (some (.seekDirectory position))
  | readDirectory limit options => .ok (some (.readDirectory limit options))
  | setConfigBoot value => .ok (some (.setConfigBoot (value != 0)))
  | setBootDevice device => .ok (some (.setBootDevice device))
  | switchDevices devices active => .ok (some (.switchDevices devices active))
  | openKey creator app key mode =>
    .ok (some (.openKey { creator, app, key, access := KeyAccess.ofByte mode }))
  | writeKey _ data => .ok (some (.writeKey data))
  | readKey => .ok none
  | closeKey => .ok (some .closeKey)

variable {W R D : Type} {c : SharedCommand}

/-! ### As opcodes -/

theorem wellFormed_opcode (hc : c.Expressible) (behind : Option Bytes) :
    (c.opcode behind).WellFormed := by
  cases c with
  | switchDevices devices active =>
    have hneeds : (if active then Opcode.enableDevice else .disableDevice).needsNoData = false := by
      cases active <;> rfl
    exact ⟨hneeds, hc⟩
  | writeKey length data => exact ⟨rfl, hc.1⟩
  | readKey => rfl
  | closeKey => rfl
  | _ => exact ⟨rfl, List.cons_ne_nil _ _⟩

theorem request_opcode (hc : c.Expressible) (behind : Option Bytes) (d : Device W R D) :
    (c.opcode behind).request d = c.request := by
  cases c with
  | setFilename slot host mode name =>
    obtain ⟨hnul, -, -⟩ := hc
    have hfield : Text.ofField (name ++ behind.elim [] fun bs => 0 :: bs) =
        Text.decodeLossy name := by
      unfold Text.ofField
      rcases behind with _ | bs
      · rw [Option.elim_none, List.append_nil, Text.beforeNul_of_notMem hnul]
      · rw [Option.elim_some, Text.beforeNul_append hnul]
    show Except.ok (some (Operation.setFilename slot host (AccessMode.ofByte mode)
      (Text.ofField _))) = _
    rw [hfield]
    rfl
  | seekDirectory position =>
    exact congrArg (fun w => Except.ok (some (Operation.seekDirectory w)))
      (Bytes.word_ofWord position)
  | switchDevices devices active => cases active <;> rfl
  | openKey creator app key mode =>
    exact congrArg (fun w => Except.ok (some (Operation.openKey
      ⟨w, app, key, KeyAccess.ofByte mode, 0⟩))) (Bytes.word_ofWord creator)
  | _ => rfl

/-! ### As lines -/

/-- A text may hold no comma, unless it is the last parameter of its line. -/
def Plain : Parameter → Prop
  | .text bs => Line.comma ∉ bs
  | _ => True

/-- A text at the end of a line may not end like one. -/
def Unended : Parameter → Prop
  | .text bs => Line.Unended bs
  | _ => True

theorem unended_of_written {p : Parameter} {token : Bytes} (h : p.Written token) (hp : Unended p) :
    Line.Unended token := by
  cases h with
  | text => exact hp
  | decimal h => exact (Parameter.Written.decimal h).unended nofun
  | hexadecimal hmark h => exact (Parameter.Written.hexadecimal hmark h).unended nofun

theorem comma_notMem_of_written {p : Parameter} {token : Bytes} (h : p.Written token)
    (hp : Plain p) : Line.comma ∉ token := by
  cases h with
  | text => exact hp
  | decimal h => exact (Parameter.Written.decimal h).comma_notMem nofun
  | hexadecimal hmark h => exact (Parameter.Written.hexadecimal hmark h).comma_notMem nofun

theorem Expressible.unended (hc : c.Expressible) :
    ∀ f ∈ c.forms, ∀ p ∈ f.2, Unended p := by
  cases c with
  | setFilename slot host mode name =>
    obtain ⟨-, -, hname⟩ := hc
    simp [forms, Unended, hname]
  | writeKey length data =>
    obtain ⟨-, hdata, -⟩ := hc
    simp [forms, Unended, hdata]
  | readDirectory limit options =>
    by_cases ho : options = 0 <;> simp [forms, Unended, ho]
  | _ => simp [forms, Unended]

theorem Expressible.plain (hc : c.Expressible) (hkey : ∀ length data, c ≠ writeKey length data) :
    ∀ f ∈ c.forms, ∀ p ∈ f.2, Plain p := by
  cases c with
  | setFilename slot host mode name =>
    obtain ⟨-, hname, -⟩ := hc
    simp [forms, Plain, hname]
  | writeKey length data => exact absurd rfl (hkey length data)
  | readDirectory limit options =>
    by_cases ho : options = 0 <;> simp [forms, Plain, ho]
  | _ => simp [forms, Plain]

theorem exists_written {params : List Parameter} {tokens : List Bytes}
    (h : List.Forall₂ Parameter.Written params tokens) :
    ∀ token ∈ tokens, ∃ p ∈ params, p.Written token := by
  induction h with
  | nil => exact fun token ht => absurd ht List.not_mem_nil
  | @cons p token params tokens hp _ ih =>
    intro t ht
    rcases List.mem_cons.1 ht with rfl | ht
    · exact ⟨p, List.mem_cons_self, hp⟩
    · obtain ⟨q, hq, hw⟩ := ih t ht
      exact ⟨q, List.mem_cons_of_mem _ hq, hw⟩

section IsLine

variable {payload : Bytes} (h : c.IsLine payload) (hc : c.Expressible)
include h hc

/-- A line of a command is told from an opcode frame and stands for one of its forms. -/
theorem IsLine.exists_form : ∃ command params tokens, (command, params) ∈ c.forms ∧
    List.Forall₂ Parameter.Written params tokens ∧ (ClientCommand.line payload).WellFormed ∧
      (Line.parse payload).command = some command ∧ (params ≠ [] → ∃ word ending,
        IsWord word command ∧ Line.IsEnd ending ∧ payload = Line.spell word tokens ++ ending) := by
  cases h with
  | @spell word command params tokens ending hform hword htokens hend =>
    refine ⟨command, params, tokens, hform, htokens, ?_, ?_, fun _ =>
      ⟨word, ending, hword, hend, rfl⟩⟩
    · unfold Line.spell
      rw [List.append_assoc]
      exact hword.wellFormed _
    · rcases List.eq_nil_or_concat tokens with rfl | ⟨args, a, rfl⟩
      · -- without parameters, one that is empty stands behind the colon
        have hspell : (Line.parse (Line.spell word ([] ++ [[]]) ++ ending)).command =
            some command := hword.command_spell hend nofun
        exact hspell
      · rw [List.concat_eq_append] at htokens ⊢
        obtain ⟨p, hp, hw⟩ := exists_written htokens a (by simp)
        exact hword.command_spell hend (unended_of_written hw (hc.unended _ hform p hp))
  | @bare word command ending hform hword hend =>
    refine ⟨command, [], [], hform, .nil, hword.wellFormed _, hword.command_bare hend, ?_⟩
    exact fun hne => absurd rfl hne

theorem IsLine.exists_params (hkey : ∀ length data, c ≠ writeKey length data)
    (hne : ∀ f ∈ c.forms, f.2 ≠ []) : ∃ command params tokens, (command, params) ∈ c.forms ∧
      List.Forall₂ Parameter.Written params tokens ∧ (ClientCommand.line payload).WellFormed ∧
        (Line.parse payload).command = some command ∧
          (Line.parse payload).params = tokens.map Text.decodeLossy := by
  obtain ⟨command, params, tokens, hform, htokens, hwell, hcommand, hspell⟩ := h.exists_form hc
  obtain ⟨word, ending, hword, hend, rfl⟩ := hspell (hne _ hform)
  refine ⟨command, params, tokens, hform, htokens, hwell, hcommand, ?_⟩
  have hplain : ∀ token ∈ tokens, Line.comma ∉ token := by
    intro token ht
    obtain ⟨p, hp, hw⟩ := exists_written htokens token ht
    exact comma_notMem_of_written hw (hc.plain hkey _ hform p hp)
  have hunended : ∀ token ∈ tokens, Line.Unended token := by
    intro token ht
    obtain ⟨p, hp, hw⟩ := exists_written htokens token ht
    exact unended_of_written hw (hc.unended _ hform p hp)
  rcases List.eq_nil_or_concat tokens with rfl | ⟨args, a, rfl⟩
  · exact absurd (List.forall₂_nil_right_iff.1 htokens) (hne _ hform)
  · rw [List.concat_eq_append] at hplain hunended ⊢
    refine hword.params_spell hend (hunended a (by simp)) (fun t ht => hplain t ?_)
      (hplain a (by simp))
    exact List.mem_append_left _ ht

theorem IsLine.read_number {command : Command} {n : Nat}
    (hforms : c.forms = [(command, [.decimal n])]) : ∃ token,
      (Parameter.decimal n).Written token ∧ (Line.parse payload).command = some command ∧
        parameter (Line.parse payload) 0 = .ok (Text.decodeLossy token) := by
  have hkey : ∀ length data, c ≠ writeKey length data := by
    rintro length data rfl
    simp [forms] at hforms
  obtain ⟨command', params, tokens, hform, htokens, -, hcommand, hparams⟩ :=
    h.exists_params hc hkey (by simp [hforms])
  rw [hforms, List.mem_singleton, Prod.mk.injEq] at hform
  obtain ⟨rfl, rfl⟩ := hform
  obtain ⟨token, rest, hw, -, rfl⟩ := List.forall₂_cons_left_iff.1 htokens
  exact ⟨token, hw, hcommand, parameter_of_params hparams rfl⟩

end IsLine

theorem devicesOf_of_written {l : Line} {devices : List UInt8} {tokens : List Bytes}
    (h : List.Forall₂ Parameter.Written (devices.map fun d => .decimal d.toNat) tokens)
    (hl : l.params = tokens.map Text.decodeLossy) : devicesOf l = .ok devices := by
  unfold devicesOf
  rw [hl]
  clear hl
  induction devices generalizing tokens with
  | nil =>
    obtain rfl := List.forall₂_nil_left_iff.1 h
    rfl
  | cons device devices ih =>
    obtain ⟨token, rest, hw, hrest, rfl⟩ := List.forall₂_cons_left_iff.1 h
    have hfirst := hw.byteArgument "invalid device id"
    have hothers := ih hrest
    rw [List.map_cons, List.filter_cons_of_pos (by simp [hw.isEmpty_trim]), List.mapM_cons, hfirst,
      hothers]
    rfl

theorem request_eq_of_command {payload : Bytes} {command : Command}
    (h : (Line.parse payload).command = some command) (d : Device W R D) :
    (ClientCommand.line payload).request d = command.request (Line.parse payload) d := by
  unfold ClientCommand.request
  simp only [h]

theorem atLeast_of_params {l : Line} {params : List String} {n : Nat} (h : l.params = params)
    (hn : n ≤ params.length) : atLeast n l = .ok () := by
  unfold atLeast Line.paramCount
  rw [h, if_neg (Nat.not_lt.2 hn)]

/-- The options of a reading may be left out if there are none. -/
theorem IsLine.read_entry {payload : Bytes} {limit options : UInt8}
    (h : (readDirectory limit options).IsLine payload) :
    (Line.parse payload).command = some .readDir ∧ ∃ token,
      (Parameter.decimal limit.toNat).Written token ∧
        parameter (Line.parse payload) 0 = .ok (Text.decodeLossy token) ∧
          ((Line.parse payload).param 1 = none ∧ options = 0 ∨ ∃ token',
            (Parameter.decimal options.toNat).Written token' ∧
              (Line.parse payload).param 1 = some (Text.decodeLossy token')) := by
  obtain ⟨command, params, tokens, hform, htokens, -, hcommand, hparams⟩ :=
    h.exists_params trivial nofun (by by_cases ho : options = 0 <;> simp [forms, ho])
  have hforms : command = .readDir ∧ params = [.decimal limit.toNat, .decimal options.toNat] ∨
      options = 0 ∧ command = .readDir ∧ params = [.decimal limit.toNat] := by
    by_cases ho : options = 0 <;> simpa [forms, ho] using hform
  rcases hforms with ⟨rfl, rfl⟩ | ⟨ho, rfl, rfl⟩
  · rcases htokens with _ | ⟨hlimit, _ | ⟨hoptions, _ | _⟩⟩
    refine ⟨hcommand, _, hlimit, parameter_of_params hparams rfl, .inr ⟨_, hoptions, ?_⟩⟩
    unfold Line.param
    rw [hparams]
    rfl
  · rcases htokens with _ | ⟨hlimit, _ | _⟩
    refine ⟨hcommand, _, hlimit, parameter_of_params hparams rfl, .inl ⟨?_, ho⟩⟩
    unfold Line.param
    rw [hparams]
    rfl

/-- The four arguments of a filename, in whichever order the last two are. -/
theorem filenameRequest_of_written {l : Line} {t u v w : Bytes} {slot host mode : UInt8}
    {name : Bytes} (h : l.params = [t, u, v, w].map Text.decodeLossy)
    (hslot : (Parameter.decimal slot.toNat).Written t)
    (hhost : (Parameter.decimal host.toNat).Written u) {i j : Nat} {x y : Bytes}
    (hi : [t, u, v, w][i]? = some x) (hmode : (Parameter.decimal mode.toNat).Written x)
    (hj : [t, u, v, w][j]? = some y) (hname : (Parameter.text name).Written y) :
    l.filenameRequest i j =
      .ok (some (.setFilename slot host (AccessMode.ofByte mode) (Text.decodeLossy name))) := by
  have hparam : ∀ {k : Nat} {z : Bytes}, [t, u, v, w][k]? = some z →
      parameter l k = .ok (Text.decodeLossy z) := by
    intro k z hk
    refine parameter_of_params h ?_
    rw [List.getElem?_map, hk]
    rfl
  have hcount := atLeast_of_params (n := 4) h (by simp)
  have hslot' := slotParameter_of_written hslot (hparam (k := 0) rfl)
  have hhost' := slotParameter_of_written hhost (hparam (k := 1) rfl)
  have hmode' := modeParameter_of_written hmode (hparam hi)
  cases hname
  unfold Line.filenameRequest
  simp only [hcount, hslot', hhost', hmode', hparam hj]
  rfl

/-- **A line asks for what its command is**, whichever of its forms it has. -/
theorem request_line {payload : Bytes} (h : c.IsLine payload) (hc : c.Expressible)
    (hkey : ∀ length data, c ≠ writeKey length data) (d : Device W R D) :
    (ClientCommand.line payload).request d = c.request := by
  -- the arguments are read one after the other, as the form of the command has them
  cases c with
  | writeKey length data => exact absurd rfl (hkey length data)
  | readKey =>
    obtain ⟨command, params, tokens, hform, -, -, hcommand, -⟩ := h.exists_form hc
    simp only [forms, List.mem_singleton, Prod.mk.injEq] at hform
    obtain ⟨rfl, rfl⟩ := hform
    exact request_eq_of_command hcommand d
  | closeKey =>
    obtain ⟨command, params, tokens, hform, -, -, hcommand, -⟩ := h.exists_form hc
    simp only [forms, List.mem_singleton, Prod.mk.injEq] at hform
    obtain ⟨rfl, rfl⟩ := hform
    exact request_eq_of_command hcommand d
  | mountHost slot =>
    obtain ⟨token, hslot, hcommand, hparam⟩ := h.read_number hc rfl
    have hread := slotParameter_of_written hslot hparam
    rw [request_eq_of_command hcommand]
    simp only [Command.request, hread]
    rfl
  | unmountHost slot =>
    obtain ⟨token, hslot, hcommand, hparam⟩ := h.read_number hc rfl
    have hread := slotParameter_of_written hslot hparam
    rw [request_eq_of_command hcommand]
    simp only [Command.request, hread]
    rfl
  | unmountImage slot =>
    obtain ⟨token, hslot, hcommand, hparam⟩ := h.read_number hc rfl
    have hread := slotParameter_of_written hslot hparam
    rw [request_eq_of_command hcommand]
    simp only [Command.request, hread]
    rfl
  | seekDirectory position =>
    obtain ⟨token, hposition, hcommand, hparam⟩ := h.read_number hc rfl
    rw [request_eq_of_command hcommand]
    simp only [Command.request, hparam, ok_bind, hposition.wordArgument]
    rfl
  | setConfigBoot value =>
    obtain ⟨token, hvalue, hcommand, hparam⟩ := h.read_number hc rfl
    rw [request_eq_of_command hcommand]
    simp only [Command.request, hparam, ok_bind, hvalue.byteArgument]
    rfl
  | setBootDevice device =>
    obtain ⟨token, hdevice, hcommand, hparam⟩ := h.read_number hc rfl
    rw [request_eq_of_command hcommand]
    simp only [Command.request, hparam, ok_bind, hdevice.byteArgument]
    rfl
  | mountImage slot mode =>
    obtain ⟨command, params, tokens, hform, htokens, -, hcommand, hparams⟩ :=
      h.exists_params hc hkey (by simp [forms])
    simp only [forms, List.mem_singleton, Prod.mk.injEq] at hform
    obtain ⟨rfl, rfl⟩ := hform
    rcases htokens with _ | ⟨hslot, _ | ⟨hmode, _ | _⟩⟩
    have hcount := atLeast_of_params (n := 2) hparams (by simp)
    have hslot' := slotParameter_of_written hslot (parameter_of_params (i := 0) hparams rfl)
    have hmode' := modeParameter_of_written hmode (parameter_of_params (i := 1) hparams rfl)
    rw [request_eq_of_command hcommand]
    simp only [Command.request, hcount, hslot', hmode']
    rfl
  | setFilename slot host mode name =>
    obtain ⟨command, params, tokens, hform, htokens, -, hcommand, hparams⟩ :=
      h.exists_params hc hkey (by simp [forms])
    simp only [forms, List.mem_cons, List.not_mem_nil, or_false, Prod.mk.injEq] at hform
    rw [request_eq_of_command hcommand]
    rcases hform with ⟨rfl, rfl⟩ | ⟨rfl, rfl⟩
    · rcases htokens with _ | ⟨hslot, _ | ⟨hhost, _ | ⟨hmode, _ | ⟨hname, _ | _⟩⟩⟩⟩
      exact filenameRequest_of_written hparams hslot hhost (i := 2) (j := 3) rfl hmode rfl hname
    · rcases htokens with _ | ⟨hslot, _ | ⟨hhost, _ | ⟨hname, _ | ⟨hmode, _ | _⟩⟩⟩⟩
      exact filenameRequest_of_written hparams hslot hhost (i := 3) (j := 2) rfl hmode rfl hname
  | readDirectory limit options =>
    obtain ⟨hcommand, token, hlimit, hparam, hoptions⟩ := h.read_entry
    rw [request_eq_of_command hcommand]
    simp only [Command.request, hparam, ok_bind, hlimit.byteArgument]
    rcases hoptions with ⟨hnone, rfl⟩ | ⟨token', hw, hsome⟩
    · simp only [hnone]
      rfl
    · simp only [hsome, hw.byteArgument]
      rfl
  | switchDevices devices active =>
    obtain ⟨command, params, tokens, hform, htokens, -, hcommand, hparams⟩ :=
      h.exists_params hc hkey (by simpa [forms, Expressible] using hc)
    simp only [forms, List.mem_singleton, Prod.mk.injEq] at hform
    obtain ⟨rfl, rfl⟩ := hform
    have hdevices := devicesOf_of_written htokens hparams
    rw [request_eq_of_command hcommand]
    cases active
    · simp only [Command.request, hdevices]
      rfl
    · simp only [Command.request, hdevices]
      rfl
  | openKey creator app key mode =>
    obtain ⟨command, params, tokens, hform, htokens, -, hcommand, hparams⟩ :=
      h.exists_params hc hkey (by simp [forms])
    simp only [forms, List.mem_singleton, Prod.mk.injEq] at hform
    obtain ⟨rfl, rfl⟩ := hform
    rcases htokens with _ | ⟨hcreator, _ | ⟨happ, _ | ⟨hkey', _ | ⟨hmode, _ | _⟩⟩⟩⟩
    have hcount := atLeast_of_params (n := 4) hparams (by simp)
    have h0 := parameter_of_params (i := 0) hparams rfl
    have h1 := parameter_of_params (i := 1) hparams rfl
    have h2 := parameter_of_params (i := 2) hparams rfl
    have h3 := parameter_of_params (i := 3) hparams rfl
    rw [request_eq_of_command hcommand]
    simp only [Command.request, keyOf, hcount, h0, h1, h2, h3, ok_bind, hcreator.hexWordArgument,
      happ.hexByteArgument, hkey'.hexByteArgument, hmode.hexByteArgument]
    rfl

/-! ### Key data -/

/-- Key data is read as it was sent, up to the length that is given with it. -/
theorem request_writeKey {payload : Bytes} {length : UInt8} {data : Bytes}
    (h : (writeKey length data).IsLine payload) (hc : (writeKey length data).Expressible)
    (d : Device W R D) : (ClientCommand.line payload).request d =
      .ok (some (.writeKey (data.take (min length.toNat AppKey.limit)))) := by
  obtain ⟨command, params, tokens, hform, htokens, -, hcommand, hspell⟩ := h.exists_form hc
  simp only [forms, List.mem_singleton, Prod.mk.injEq] at hform
  obtain ⟨rfl, rfl⟩ := hform
  obtain ⟨word, ending, hword, hend, rfl⟩ := hspell (List.cons_ne_nil _ _)
  rcases htokens with _ | @⟨_, token, _, _, hlength, _ | ⟨hdata, _ | _⟩⟩
  cases hdata
  -- the data may hold commas, so it is not one parameter but the rest of the line
  have hplain : ∀ t ∈ [token], Line.comma ∉ t := by
    intro t ht
    rw [List.mem_singleton.1 ht]
    exact hlength.comma_notMem nofun
  have hfields := Line.fields_spell hword.colon_notMem hc.2.1 hend hword.comma_notMem hplain
  have hbytes := Line.bytesFrom_spell hword.colon_notMem hc.2.1 hend hword.comma_notMem hplain
  have hparams : (Line.parse (Line.spell word [token, data] ++ ending)).params =
      Text.decodeLossy token :: (Text.splitAll Line.comma data).map Text.decodeLossy := by
    unfold Line.params
    exact congrArg (fun fields : List Bytes => fields.tail.map Text.decodeLossy) hfields
  have hpos : 0 < (Text.splitAll Line.comma data).length :=
    List.length_pos_of_ne_nil (Text.splitAll_ne_nil Line.comma data)
  have hcount := atLeast_of_params (n := 2) hparams (by
    rw [List.length_cons, List.length_map]
    omega)
  have hparam := parameter_of_params (i := 0) hparams rfl
  have hrest : (Line.parse (Line.spell word [token, data] ++ ending)).bytesFrom 1 = some data :=
    hbytes
  rw [request_eq_of_command hcommand]
  simp only [Command.request, hcount, hparam, ok_bind, hlength.byteArgument, hrest]
  rfl

variable [HostStorage W R] [SettingsStore W] [KeyStorage W] [DriveBay D]

/-- Key data is cut to the longest key anyway. -/
theorem perform_writeKey_take {data data' : Bytes}
    (h : data.take AppKey.limit = data'.take AppKey.limit) :
    ((Operation.writeKey data).perform : Action (Device W R D) Unit) =
      (Operation.writeKey data').perform := by
  have hfile : ∀ k,
      (KeySession.writeFile k data : Action W Nat) = KeySession.writeFile k data' := by
    intro k
    unfold KeySession.writeFile
    simp only [h]
  have hwrite : (KeySession.write data : Action (KeySession W) Nat) = KeySession.write data' := by
    unfold KeySession.write
    simp only [hfile]
  exact congrArg (fun act => (do let _ ← onKeySession act : Action (Device W R D) Unit)) hwrite

/-- **An opcode and a line ask for what does the same.** -/
theorem serve_line {payload : Bytes} (h : c.IsLine payload) (hc : c.Expressible)
    (d : Device W R D) :
    (c.request.serve : Action (Device W R D) Unit) =
        ((ClientCommand.line payload).request d).serve ∧
      c.request.tells = ((ClientCommand.line payload).request d).tells := by
  by_cases hkey : ∃ length data, c = writeKey length data
  · obtain ⟨length, data, rfl⟩ := hkey
    have hlength := hc.2.2
    have hlimit : data.take AppKey.limit =
        (data.take (min length.toNat AppKey.limit)).take AppKey.limit := by
      rw [List.take_take, List.take_eq_take_iff]
      omega
    rw [request_writeKey h hc d]
    exact ⟨perform_writeKey_take hlimit, rfl⟩
  · have hrequest := request_line h hc (fun length data hl => hkey ⟨length, data, hl⟩) d
    rw [hrequest]
    exact ⟨rfl, rfl⟩

/-! ### What is read -/

/-- Whether the command reads something. -/
def reads : SharedCommand → Bool
  | readDirectory _ _ | readKey => true
  | _ => false

theorem wellFormed_line {payload : Bytes} (h : c.IsLine payload) (hc : c.Expressible) :
    (ClientCommand.line payload).WellFormed := by
  obtain ⟨command, params, tokens, -, -, hwell, -⟩ := h.exists_form hc
  exact hwell

theorem sameOutcome_readDirectory {limit options : UInt8} {payload : Bytes}
    (h : (readDirectory limit options).IsLine payload) {d : Device W R D} (hd : d.pending = .idle) :
    let x := (ClientCommand.opcodeWithData .readDirEntry [limit, options]).sent d
    let y := receive payload d
    SameOutcome x y ∧ (x.1.status.code = Error.successCode → x.1.data = y.1.data) := by
  obtain ⟨hcommand, token, hlimit, hparam, hoptions⟩ := h.read_entry
  have hact : answerOpcodeWithData .readDirEntry [limit, options] =
      some (onRack (Rack.readDirectory limit options) : Action (Device W R D) Bytes) := rfl
  have hline : (answerLine .readDir (Line.parse payload) : Action (Device W R D) Answer) = (do
      return { data := ← onRack (Rack.readDirectory limit options), message := "" }) := by
    show readEntryAnswer (Line.parse payload) = _
    unfold readEntryAnswer
    simp only [hparam, lift_ok_bind, hlimit.byteArgument]
    rcases hoptions with ⟨hnone, rfl⟩ | ⟨token', hw, hsome⟩
    · simp only [hnone]
      rfl
    · simp only [hsome, hw.byteArgument, lift_ok_bind]
  intro x y
  have hx : x = d.opcodeOutcome (onRack (Rack.readDirectory limit options)) :=
    receive_opcodeWithData rfl (List.cons_ne_nil _ _) hact hd
  have hy : y = d.lineOutcome (answerLine .readDir (Line.parse payload)) :=
    receive_command (wellFormed_line h trivial) hcommand (by decide) hd
  rw [hx, hy, hline]
  exact sameOutcome_bytes _ _ d

theorem sameOutcome_readKey {payload : Bytes} (h : readKey.IsLine payload) {d : Device W R D}
    (hd : d.pending = .idle) :
    let x := (ClientCommand.opcode .readAppKey).sent d
    let y := receive payload d
    SameOutcome x y ∧ (x.1.status.code = Error.successCode → x.1.data = y.1.data) := by
  obtain ⟨command, params, tokens, hform, -, hwell, hcommand, -⟩ := h.exists_form trivial
  simp only [forms, List.mem_singleton, Prod.mk.injEq] at hform
  obtain ⟨rfl, rfl⟩ := hform
  intro x y
  have hx : x = d.opcodeOutcome Device.readKey := receive_readKey_opcode hd
  have hy : y = _ := receive_readKey_line hwell hcommand hd
  rw [hx, hy]
  exact sameOutcome_bytes Device.readKey _ d

end SharedCommand

open SharedCommand in
/-- **The front ends agree on the commands that they share.** With nothing pending, an opcode and
any line of the same command, with arguments that both can tell, succeed alike or fail alike with
the same message, and leave the same device but for the status, what lies in its storage and its
drives included. What is read is the same bytes. -/
theorem front_ends_agree {W R D : Type} [HostStorage W R] [SettingsStore W] [KeyStorage W]
    [DriveBay D] {d : Device W R D} (hd : d.pending = .idle) {c : SharedCommand}
    (hc : c.Expressible) {payload : Bytes} (h : c.IsLine payload) (behind : Option Bytes) :
    let x := (c.opcode behind).sent d
    let y := receive payload d
    SameOutcome x y ∧
      (c.reads → x.1.status.code = Error.successCode → x.1.data = y.1.data) := by
  intro x y
  by_cases hreads : c.reads
  · have hboth : SameOutcome x y ∧ (x.1.status.code = Error.successCode → x.1.data = y.1.data) := by
      cases c with
      | readDirectory limit options => exact sameOutcome_readDirectory h hd
      | readKey => exact sameOutcome_readKey h hd
      | _ => cases hreads
    exact ⟨hboth.1, fun _ => hboth.2⟩
  · have hopcode := request_opcode hc behind d
    obtain ⟨hserve, htells⟩ := serve_line h hc d
    have hmute : c.request.tells = false := by
      cases c with
      | readKey => exact absurd rfl hreads
      | _ => rfl
    refine ⟨?_, fun hr => absurd hr hreads⟩
    exact sameOutcome_of_request (wellFormed_opcode hc behind) (wellFormed_line h hc) hd
      (hopcode ▸ hserve) (hopcode ▸ hmute) (htells ▸ hmute)

/-- A name with a colon, told by an opcode with something behind the name, and by a line in small
letters with a zero before a number and with a line end. -/
theorem front_ends_agree_put_drive :
    let d : Memory.Adapter := Memory.Surroundings.start {}
    let c := SharedCommand.setFilename 2 0 1 (Text.encode "a:b.d64")
    let payload := Text.encode "putdrive:02,0,a:b.d64,1\r\n"
    let x := (c.opcode (some [44])).sent d
    d.pending = .idle ∧ c.Expressible ∧ c.IsLine payload ∧ SameOutcome x (receive payload d) ∧
      x.1.status.code = Error.successCode := by
  intro d c payload x
  have hd : d.pending = .idle := by decide +kernel
  have hc : c.Expressible := by
    refine ⟨by decide +kernel, by decide +kernel, fun b hb => ?_⟩
    have hlast : (Text.encode "a:b.d64").getLast? = some 52 := by decide +kernel
    obtain rfl := Option.some.inj (hlast.symm.trans hb)
    decide
  have hword : IsWord (Text.encode "putdrive") .putDrive := by
    refine ⟨by decide +kernel, by decide +kernel, fun b hb => ?_, by decide +kernel⟩
    have hlast : (Text.encode "putdrive").getLast? = some 101 := by decide +kernel
    obtain rfl := Option.some.inj (hlast.symm.trans hb)
    decide
  have htokens : List.Forall₂ Line.Parameter.Written
      [.decimal 2, .decimal 0, .text (Text.encode "a:b.d64"), .decimal 1]
      [Text.encode (String.ofList ['0', '2']), Text.encode (String.ofList ['0']),
        Text.encode "a:b.d64", Text.encode (String.ofList ['1'])] :=
    .cons (.decimal ⟨1, by decide⟩) (.cons (.decimal ⟨0, by decide⟩)
      (.cons (.text _) (.cons (.decimal ⟨0, by decide⟩) .nil)))
  have hline : c.IsLine payload := by
    have hform : (Command.putDrive, [.decimal 2, .decimal 0, .text (Text.encode "a:b.d64"),
        .decimal 1]) ∈ c.forms := List.mem_cons_of_mem _ List.mem_cons_self
    have hend : Line.IsEnd [13, 10] := by
      intro b hb
      simpa using hb
    have hspell := SharedCommand.IsLine.spell hform hword htokens hend
    have hpayload : payload = Line.spell (Text.encode "putdrive")
        [Text.encode (String.ofList ['0', '2']), Text.encode (String.ofList ['0']),
          Text.encode "a:b.d64", Text.encode (String.ofList ['1'])] ++ [13, 10] := by
      decide +kernel
    rwa [← hpayload] at hspell
  have hcode : x.1.status.code = Error.successCode := by decide +kernel
  exact ⟨hd, hc, hline, (front_ends_agree hd hc hline (some [44])).1, hcode⟩

end StorageAdapter
