import StorageAdapter.Memory.Adapter
import StorageAdapter.Proofs.Escapes
import StorageAdapter.Proofs.FrontEnds

/-! # Credentials from two front ends

The opcode takes the name and the passphrase as they are, with a NUL behind each. The line takes
them between commas and reads escapes in them, so that every text can be sent. However a client
escapes them, both forms ask for the same (`credentials_set_alike`), unless the name is one of
digits alone: in a line that is the checksum of a network. -/

namespace StorageAdapter

open StorageAdapter.Action StorageAdapter.Device

namespace Credentials

/-- The data of the opcode: the name and the passphrase, with a NUL behind each. -/
def data (c : Credentials) : Bytes := Text.encode c.ssid ++ 0 :: (Text.encode c.password ++ [0])

/-- The characters that may stand for themselves in a line. -/
def Plain (x : Char) : Prop := x ≠ '%' ∧ x ≠ ',' ∧ x ≠ '\r' ∧ x ≠ '\n'

instance : DecidablePred Plain := fun x =>
  inferInstanceAs (Decidable (x ≠ '%' ∧ x ≠ ',' ∧ x ≠ '\r' ∧ x ≠ '\n'))

/-- The line with the name and the passphrase as they were escaped. -/
def line (ssid password : String) : Bytes :=
  Line.write "SETSSID" [Text.encode ssid, Text.encode password]

variable {c : Credentials}

/-- Without NULs, both texts are read back from the data. -/
theorem ofRequest_data (hssid : '\x00' ∉ c.ssid.toList) (hpassword : '\x00' ∉ c.password.toList) :
    ofRequest c.data = c := by
  have hs : 0 ∉ Text.encode c.ssid := mt (Text.mem_of_mem_encode (c := '\x00') (by decide)) hssid
  have hp : 0 ∉ Text.encode c.password :=
    mt (Text.mem_of_mem_encode (c := '\x00') (by decide)) hpassword
  unfold ofRequest data Text.ofField
  rw [Text.beforeNul_append hs, Text.afterNul_append hs, Option.getD_some,
    Text.beforeNul_append hp, Text.decodeLossy_encode, Text.decodeLossy_encode]

/-! ### The line -/

/-- However a text is escaped, it holds no comma and no line end. -/
theorem comma_notMem {s t : String} (h : Text.Escapes Plain s.toList t.toList) :
    Line.comma ∉ Text.encode t :=
  h.notMem_encode (c := ',') (by decide) (fun hplain => hplain.2.1 rfl) (by decide)

theorem unended {s t : String} (h : Text.Escapes Plain s.toList t.toList) :
    Line.Unended (Text.encode t) := by
  have hcr : 13 ∉ Text.encode t :=
    h.notMem_encode (c := '\r') (by decide) (fun hplain => hplain.2.2.1 rfl) (by decide)
  have hlf : 10 ∉ Text.encode t :=
    h.notMem_encode (c := '\n') (by decide) (fun hplain => hplain.2.2.2 rfl) (by decide)
  intro b hb
  have hmem := List.mem_of_getLast? hb
  exact ⟨ne_of_mem_of_not_mem hmem hcr, ne_of_mem_of_not_mem hmem hlf⟩

section Line

variable {ssid password : String} (hs : Text.Escapes Plain c.ssid.toList ssid.toList)
  (hp : Text.Escapes Plain c.password.toList password.toList)
include hs hp

theorem legible_line : Line.Legible "SETSSID" [Text.encode ssid, Text.encode password] where
  colon_notMem := by decide +kernel
  comma_notMem := by decide +kernel
  ne_nil := List.cons_ne_nil _ _
  plain a ha := by
    simp only [List.mem_cons, List.not_mem_nil, or_false] at ha
    obtain rfl | rfl := ha
    · exact comma_notMem hs
    · exact comma_notMem hp
  unended := Line.unended_spell (unended hp) (Text.encode "SETSSID") [Text.encode ssid]

theorem command_line : (Line.parse (line ssid password)).command = some .setSsid := by
  unfold line
  rw [(legible_line hs hp).command_write]
  decide +kernel

/-- **The credentials are read back from the line**, unless the name is one of digits alone. -/
theorem credentialsOf_line {W R D : Type} (hname : Text.isNumeral c.ssid = false)
    (d : Device W R D) : credentialsOf (Line.parse (line ssid password)) d = .ok c := by
  have hplain : ∀ x, Plain x → x ≠ '%' := fun _ hx => hx.1
  have hparams : (Line.parse (line ssid password)).params = [ssid, password] := by
    unfold line
    rw [(legible_line hs hp).params_write]
    simp only [List.map_cons, List.map_nil, Text.decodeLossy_encode]
  have hcount : (Line.parse (line ssid password)).paramCount = 2 := by
    unfold Line.paramCount
    rw [hparams]
    rfl
  unfold credentialsOf
  simp only [hcount, parameter_of_params hparams (i := 0) rfl,
    parameter_of_params hparams (i := 1) rfl, ok_bind, Text.percentDecode_of_escapes hplain hs,
    Text.percentDecode_of_escapes hplain hp, hname]
  rfl

end Line

end Credentials

/-- **The opcode and the line set the same credentials.** Let the line escape any characters of the
name and of the passphrase, those with all their bytes and in digits of either case, but at least
every `%`, comma and line end. On every device with no command pending, both forms then end with the
same code and, if they fail, the same message; and they leave the same device, with its settings,
its storage and its journal of trials, restarts and pauses, but for the status. -/
theorem credentials_set_alike {W R D : Type} [HostStorage W R] [SettingsStore W] [KeyStorage W]
    [DriveBay D] {d : Device W R D} (hd : d.pending = .idle) {c : Credentials}
    (hssid : '\x00' ∉ c.ssid.toList) (hpassword : '\x00' ∉ c.password.toList)
    (hname : Text.isNumeral c.ssid = false) {ssid password : String}
    (hs : Text.Escapes Credentials.Plain c.ssid.toList ssid.toList)
    (hp : Text.Escapes Credentials.Plain c.password.toList password.toList) :
    SameOutcome (receive c.data (receive (ClientCommand.openFrame .setSsid) d).2)
      (receive (Credentials.line ssid password) d) := by
  have hdata : (ClientCommand.opcodeWithData .setSsid c.data).WellFormed :=
    ⟨rfl, List.append_ne_nil_of_right_ne_nil _ (List.cons_ne_nil _ _)⟩
  have hline : (ClientCommand.line (Credentials.line ssid password)).WellFormed :=
    wellFormed_write (by decide +kernel) _
  have hopcode : (ClientCommand.opcodeWithData .setSsid c.data).request d =
      .ok (some (.setCredentials c true)) := by
    show Except.ok (some (Operation.setCredentials (.ofRequest c.data) true)) = _
    rw [Credentials.ofRequest_data hssid hpassword]
  have hasked : (ClientCommand.line (Credentials.line ssid password)).request d =
      .ok (some (.setCredentials c true)) := by
    unfold ClientCommand.request
    simp only [Credentials.command_line hs hp]
    unfold Command.request
    simp only [Credentials.credentialsOf_line hs hp hname, ok_bind]
    rfl
  refine sameOutcome_of_request hdata hline hd ?_ ?_ ?_
  · rw [hopcode, hasked]
  · rw [hopcode]
    rfl
  · rw [hasked]
    rfl

/-- In the name a comma and a letter of two bytes are escaped, in the passphrase nothing is. -/
theorem credentials_set_alike_escaped :
    let d : Memory.Adapter := Memory.Surroundings.start {}
    let c : Credentials := { ssid := "7,é", password := "wave" }
    d.pending = .idle ∧ '\x00' ∉ c.ssid.toList ∧ '\x00' ∉ c.password.toList ∧
      Text.isNumeral c.ssid = false ∧
      SameOutcome (receive c.data (receive (ClientCommand.openFrame .setSsid) d).2)
        (receive (Credentials.line "7%2c%C3%a9" "wave") d) := by
  intro d c
  have hname : Text.isNumeral c.ssid = false := by decide +kernel
  have hnul : '\x00' ∉ c.ssid.toList := by decide +kernel
  have hnul' : '\x00' ∉ c.password.toList := by decide +kernel
  have hcomma : Text.EscapedBytes (String.utf8EncodeChar ',') ['%', '2', 'c'] :=
    .cons (by decide +kernel) (by decide +kernel) .nil
  have hletter : Text.EscapedBytes (String.utf8EncodeChar 'é') ['%', 'C', '3', '%', 'a', '9'] :=
    .cons (by decide +kernel) (by decide +kernel)
      (.cons (by decide +kernel) (by decide +kernel) .nil)
  have hssid : Text.Escapes Credentials.Plain c.ssid.toList "7%2c%C3%a9".toList := by
    rw [show c.ssid.toList = ['7', ',', 'é'] by decide +kernel, show "7%2c%C3%a9".toList =
      '7' :: (['%', '2', 'c'] ++ (['%', 'C', '3', '%', 'a', '9'] ++ [])) by decide +kernel]
    exact .keep (by decide) (.escape hcomma (.escape hletter .nil))
  have hpassword : Text.Escapes Credentials.Plain c.password.toList "wave".toList := by
    rw [show c.password.toList = ['w', 'a', 'v', 'e'] by decide +kernel]
    exact .keep (by decide) (.keep (by decide) (.keep (by decide) (.keep (by decide) .nil)))
  exact ⟨rfl, hnul, hnul', hname, credentials_set_alike rfl hnul hnul' hname hssid hpassword⟩

end StorageAdapter
