import StorageAdapter.Memory.Adapter
import StorageAdapter.Proofs.GivenModes
import StorageAdapter.Proofs.Openings

/-! # Write access

An image is opened for writing on request only (`write_access_on_request`). A frame opens images if
it mounts one of them, in the mode that it carries, or all of them, each in the mode of its slot,
which is the one that the slot was given last. -/

namespace StorageAdapter

open StorageAdapter.Action StorageAdapter.Device

theorem AccessMode.ofByte_eq_readWrite_iff {b : UInt8} : ofByte b = .readWrite ↔ b = 2 := by
  unfold ofByte
  by_cases hb : b = 2
  · rw [if_pos hb]
    exact ⟨fun _ => hb, fun _ => rfl⟩
  · rw [if_neg hb]
    exact ⟨nofun, fun h => absurd h hb⟩

/-! ### Frames that mount an image -/

theorem Device.byteAt_eq_ok_iff {data : Bytes} {i : Nat} {b : UInt8} :
    byteAt data i = .ok b ↔ data[i]? = some b := by
  unfold byteAt
  rcases data[i]? with _ | c
  · exact ⟨nofun, nofun⟩
  · exact ⟨fun h => congrArg some (Except.ok.inj h),
      fun h => congrArg Except.ok (Option.some.inj h)⟩

theorem Opcode.eq_mountImage {op : Opcode} {data : Bytes} {slot : UInt8} {mode : AccessMode}
    (h : op.request data = .ok (some (.mountImage slot mode))) :
    op = .mountImage ∧ data[0]? = some slot ∧ ∃ b, data[1]? = some b ∧
      AccessMode.ofByte b = mode := by
  cases op <;> simp only [Opcode.request, bind_eq_ok_iff, pure, Except.pure, Except.ok.injEq,
    Option.some.injEq, reduceCtorEq, and_false, exists_false] at h
  case mountImage =>
    obtain ⟨a, ha, b, hb, he⟩ := h
    cases he
    exact ⟨rfl, byteAt_eq_ok_iff.1 ha, b, byteAt_eq_ok_iff.1 hb, rfl⟩
  all_goals split at h <;> cases h

variable {W R D : Type}

theorem Command.eq_mountDrive {command : Command} {l : Line} {d : Device W R D} {slot : UInt8}
    {mode : AccessMode} (h : command.request l d = .ok (some (.mountImage slot mode))) :
    command = .mountDrive ∧ slotParameter l 0 = .ok slot ∧ modeParameter l 1 = .ok mode := by
  cases command <;> simp only [Command.request, Line.filenameRequest, bind_eq_ok_iff, pure,
    Except.pure, Except.ok.injEq, Option.some.injEq, reduceCtorEq, and_false, exists_false] at h
  case mountDrive =>
    obtain ⟨_, -, a, ha, b, hb, he⟩ := h
    cases he
    exact ⟨rfl, ha, hb⟩
  case readDir =>
    obtain ⟨_, -, _, -, h⟩ := h
    split at h <;> simp only [bind_eq_ok_iff, Except.ok.injEq, Option.some.injEq, reduceCtorEq,
      and_false, exists_false] at h
  case writeAppKey =>
    obtain ⟨_, -, _, -, _, -, h⟩ := h
    split at h <;> cases h

/-- **The frame mounts the image of the slot with mode byte 2**, as the data of the opcode or as the
parameters of a command line. -/
inductive Device.MountsForWriting (d : Device W R D) (payload : Bytes) (i : Fin 8) : Prop
  | opcode (data : Bytes) (h : (d.pending.decode payload).1 = .data .mountImage data)
      (slot : data[0]? = some (Rack.unit i)) (mode : data[1]? = some 2)
  | line (l : Line) (h : (d.pending.decode payload).1 = .line l)
      (command : l.command = some .mountDrive) (slot : slotParameter l 0 = .ok (Rack.unit i))
      (token : String) (param : l.param 1 = some token)
      (mode : Text.byteArgument "invalid mode" token = .ok 2)

/-- A frame that asks for an image to be mounted for writing says so itself. -/
theorem mountsForWriting_of_asked {d : Device W R D} {payload : Bytes} {i : Fin 8}
    (h : asked payload d = .ok (some (.mountImage (Rack.unit i) .readWrite))) :
    d.MountsForWriting payload i := by
  unfold asked at h
  rcases hframe : (d.pending.decode payload).1 with _ | op | code | l | ⟨op, data⟩ <;>
    simp only [hframe] at h
  case empty => cases h
  case unknown => cases h
  case opened =>
    by_cases hop : op.needsNoData
    · rw [if_pos hop] at h
      obtain ⟨rfl, -⟩ := Opcode.eq_mountImage h
      cases hop
    · rw [if_neg hop] at h
      cases h
  case data =>
    by_cases hop : op.needsNoData
    · rw [if_pos hop] at h
      cases h
    · rw [if_neg hop] at h
      obtain ⟨rfl, hslot, b, hb, hmode⟩ := Opcode.eq_mountImage h
      obtain rfl := AccessMode.ofByte_eq_readWrite_iff.1 hmode
      exact .opcode data hframe hslot hb
  case line =>
    rcases hcommand : l.command with _ | command <;> simp only [hcommand] at h
    · cases h
    obtain ⟨rfl, hslot, hmode⟩ := Command.eq_mountDrive h
    obtain ⟨token, hparam, hread⟩ := bind_eq_ok_iff.1 hmode
    obtain ⟨b, hread, hmode⟩ := bind_eq_ok_iff.1 hread
    obtain rfl := AccessMode.ofByte_eq_readWrite_iff.1 (Except.ok.inj hmode)
    refine .line l hframe hcommand hslot token ?_ hread
    unfold parameter at hparam
    rcases hp : l.param 1 with _ | s <;> rw [hp] at hparam
    · cases hparam
    · exact congrArg some (Except.ok.inj hparam)

/-! ### Mounting all images -/

variable [HostStorage W R] [SettingsStore W] [DriveBay D]

/-- **Mounting all images** opens those of slots in turn, each one in the mode of its slot. -/
theorem opened_mountAll {g : Fin 8 → AccessMode} {d : Device (Recorded W R) R D}
    (hd : d.Gives g) :
    (Device.mountAll.after d).rack.Opened g d.rack.storage.openings (List.finRange 8) := by
  have hall : Ends (fun e : Device (Recorded W R) R D => e = d) Device.mountAll
      (fun _ e => e.rack.Opened g d.rack.storage.openings (List.finRange 8))
      fun _ e => e.rack.Opened g d.rack.storage.openings (List.finRange 8) := by
    refine ends_mountAll
      (P := fun tried e => e.rack.Gives g ∧ e.rack.Opened g d.rack.storage.openings tried)
      (fun he slots => ⟨he.1, he.2.mono (List.sublist_append_left _ slots)⟩) (fun he => he)
      (fun tried i mode => ends_onRack fun e => ?_) (fun he => he.2.save) ?_
    · rintro r ⟨⟨hr, ho⟩, hnamed, hmode⟩
      obtain rfl : g i = mode := (hr i hnamed).symm.trans hmode
      have hgives := Rack.ends_mountImage_gives (W := Recorded W R) (D := D) i (g i) (g := g)
      rw [Function.update_eq_self] at hgives
      exact hgives.and (Rack.ends_mountImage_opened i) r ⟨hr, ho⟩
    · rintro e rfl
      exact ⟨hd.rack, Rack.opened_nil rfl⟩
  exact ends_after.1 hall d rfl

/-! ### All operations -/

variable [KeyStorage W]

/-- The images that an operation opens are those of some slots in their order. One that it opens for
writing it mounts in that mode, or it mounts all images and the slot has the mode. -/
theorem opened_perform {g : Fin 8 → AccessMode} {d : Device (Recorded W R) R D} (hd : d.Gives g)
    (o : Operation) : ∃ mode slots,
      (o.perform.after d).rack.Opened mode d.rack.storage.openings slots ∧
      slots.Pairwise (· < ·) ∧ ∀ i ∈ slots, mode i = .readWrite →
        o = .mountImage (Rack.unit i) .readWrite ∨ o = .mountAll ∧ g i = .readWrite := by
  by_cases ho : o.opensImages
  · cases o with
    | mountImage slot mode =>
      have hperform : (Operation.mountImage slot mode).perform.after d =
          (Device.mountImage slot mode).after d := after_bind_pure _ _ _
      rw [hperform]
      rcases hi : Rack.diskIndex slot with err | i
      · rw [after_mountImage_of_error hi]
        exact ⟨g, [], Rack.opened_nil rfl, .nil, nofun⟩
      · obtain rfl := Rack.eq_unit_of_slotIndex hi
        refine ⟨_, [i], opened_mountImage i mode d, List.pairwise_singleton .., fun j hj hm => ?_⟩
        obtain rfl := List.mem_singleton.1 hj
        exact .inl (congrArg _ hm)
    | mountAll =>
      exact ⟨g, List.finRange 8, opened_mountAll hd, List.pairwise_lt_finRange 8,
        fun i _ hm => .inr ⟨rfl, hm⟩⟩
    | _ => cases ho
  · have hkept := keeps_iff.1 (keeps_openings ho d.rack.storage.openings) d rfl
    exact ⟨g, [], Rack.opened_nil hkept, .nil, nofun⟩

/-! ### Runs -/

/-- **An image is opened for writing on request only.** A frame at the end of a run opens images of
some slots, each at most once, and from where its slot takes it. One that it opens for writing it
mounts itself with mode byte 2; or it mounts all images, and the slot was given that mode last: by
the last operation of the run that assigned the slot, or if there was none, by the settings that
were loaded. -/
theorem write_access_on_request (storage : W) (drives : D) (radio : Radio) (board : Board)
    (digester : Digester) (moves : List (Move (Recorded W R) D)) (payload : Bytes) :
    let start : Device (Recorded W R) R D :=
      Device.start { inner := storage } drives radio board digester
    let loaded : Settings := (SettingsStore.load storage).toOption.getD {}
    let d := start.run moves
    let e := d.move (.frame payload)
    start.rack.storage.openings = [] ∧
      ∃ opened : List (Fin 8 × ImageOpening R),
        e.rack.storage.openings = d.rack.storage.openings ++ opened.map Prod.snd ∧
        (opened.map Prod.fst).Pairwise (· < ·) ∧
        ∀ i o, (i, o) ∈ opened → e.rack.source? i = some (o.root, o.path) ∧
          (o.mode = .readWrite → d.MountsForWriting payload i ∨
            asked payload d = .ok (some .mountAll) ∧
              start.lastGiven (fun j => (loaded.mounts.get j).mode) moves i = .readWrite) := by
  intro start loaded d e
  have hstart : start.Gives fun j => (loaded.mounts.get j).mode := by
    have hsettings : start.settings = loaded := settings_start_eq _ drives radio board digester
    rw [← hsettings]
    exact gives_start _ drives radio board digester
  have hd : d.Gives (start.lastGiven (fun j => (loaded.mounts.get j).mode) moves) :=
    hstart.run moves
  obtain ⟨status, hreceive⟩ := receive_eq payload d
  have hrack : e.rack = ((asked payload d).serve.after d).rack := by
    show (receive payload d).2.rack = _
    rw [hreceive]
    rfl
  refine ⟨Rack.openings_fill _ _, ?_⟩
  rw [hrack]
  rcases hasked : asked payload d with err | _ | operation
  · exact ⟨[], (List.append_nil _).symm, .nil, nofun⟩
  · exact ⟨[], (List.append_nil _).symm, .nil, nofun⟩
  obtain ⟨mode, slots, ⟨opened, hopened, hslots, hsource⟩, hsorted, hrequest⟩ :=
    opened_perform hd operation
  refine ⟨opened, hopened, hsorted.sublist hslots, fun i o hmem => ?_⟩
  obtain ⟨hfrom, hmode⟩ := hsource i o hmem
  refine ⟨hfrom, fun hwrite => ?_⟩
  have hi : i ∈ slots := hslots.subset (List.mem_map_of_mem hmem)
  obtain rfl | ⟨rfl, hg⟩ := hrequest i hi (hmode.symm.trans hwrite)
  · exact .inl (mountsForWriting_of_asked hasked)
  · exact .inr ⟨rfl, hg⟩

/-- A slot that was pointed at a file for writing is mounted so, until it was mounted in another
mode. -/
example :
    let storage : Recorded Memory.Storage String :=
      { inner := { hosts := ({} : Memory.Hosts).withFile "h" "/g.d64" 174848 0 } }
    let start : Device _ String Memory.Drives :=
      Device.start storage {} {} { version := "dummy-0.1.0" } DigestAlgorithm.digest
    let moves := ["PUTHOST:0,h", "SETDRIVEFILENAME:0,0,2,/g.d64", "MOUNTALL", "MOUNTDRIVE:0,1",
      "MOUNTALL"].map fun line => .frame (Text.encode line)
    (start.run moves).rack.storage.openings.map ImageOpening.mode = [.readWrite, .read, .read] := by
  decide +kernel

end StorageAdapter
