import Mathlib.Data.List.TakeWhile
import StorageAdapter.Memory.Adapter
import StorageAdapter.Proofs.Framing
import StorageAdapter.Proofs.Line

/-! # The byte behind the first word

A line may have a colon or a comma behind its first word. The colon is made a comma, but so is the
first colon of the parameters if there was a comma (`raw_comma`). The two forms of a line are the
same if and only if there is no colon in the parameters; otherwise the form with a comma has one
parameter more, since the parameter with the colon is cut in two. -/

namespace StorageAdapter

open StorageAdapter.Action StorageAdapter.Device

namespace Line

/-! ### Line ends -/

theorem exists_end (bs : Bytes) : ∃ ending, IsEnd ending ∧ bs = withoutEnd bs ++ ending := by
  -- the end is what is skipped when the line is read backwards
  refine ⟨(bs.reverse.takeWhile fun b => b == 13 || b == 10).reverse, fun b hb => ?_, ?_⟩
  · have h := List.mem_takeWhile_imp (List.mem_reverse.1 hb)
    simpa using h
  · unfold withoutEnd
    rw [← List.reverse_append, List.takeWhile_append_dropWhile, List.reverse_reverse]

theorem unended_withoutEnd (bs : Bytes) : Unended (withoutEnd bs) := by
  intro b hb
  unfold withoutEnd at hb
  rw [List.getLast?_reverse] at hb
  have h := List.head?_dropWhile_not (fun b : UInt8 => b == 13 || b == 10) bs.reverse
  rw [hb] at h
  simpa using h

theorem colon_mem_withoutEnd {bs : Bytes} : colon ∈ withoutEnd bs ↔ colon ∈ bs := by
  obtain ⟨ending, he, hbs⟩ := exists_end bs
  constructor
  · intro h
    rw [hbs]
    exact List.mem_append_left _ h
  · intro h
    rw [hbs, List.mem_append] at h
    refine h.resolve_right fun hc => ?_
    rcases he _ hc with h | h <;> exact absurd h (by decide)

/-- The end of a line is the end of its parameters. -/
theorem withoutEnd_append_cons (word : Bytes) {c : UInt8} (hc : c ≠ 13 ∧ c ≠ 10) (bs : Bytes) :
    withoutEnd (word ++ c :: bs) = word ++ c :: withoutEnd bs := by
  obtain ⟨ending, he, hbs⟩ := exists_end bs
  have hunended : Unended (word ++ [c] ++ withoutEnd bs) :=
    (Unended.append_cons word hc).append (unended_withoutEnd bs)
  have hline : word ++ c :: bs = word ++ [c] ++ withoutEnd bs ++ ending := by
    rw [List.append_assoc, List.append_assoc, ← hbs, List.singleton_append]
  rw [hline, withoutEnd_append he, withoutEnd_of_unended hunended, List.append_assoc,
    List.singleton_append]

/-! ### The first colon -/

section Replacing

variable {x y : UInt8} (hxy : x ≠ y)
include hxy

theorem count_replaceFirst {xs : Bytes} (h : x ∈ xs) :
    (replaceFirst x y xs).count y = xs.count y + 1 := by
  induction xs with
  | nil => exact absurd h List.not_mem_nil
  | cons b xs ih =>
    unfold replaceFirst
    by_cases hb : b = x
    · subst hb
      rw [if_pos rfl, List.count_cons_self, List.count_cons_of_ne hxy]
    · have hmem : x ∈ xs := (List.mem_cons.1 h).resolve_left (Ne.symm hb)
      rw [if_neg hb, List.count_cons, List.count_cons, ih hmem]
      omega

theorem replaceFirst_eq_self_iff {xs : Bytes} : replaceFirst x y xs = xs ↔ x ∉ xs := by
  constructor
  · intro h hmem
    have hcount := count_replaceFirst hxy hmem
    rw [h] at hcount
    omega
  · exact replaceFirst_of_notMem

end Replacing

theorem length_splitAll (sep : UInt8) (bs : Bytes) :
    (Text.splitAll sep bs).length = bs.count sep + 1 := by
  induction bs with
  | nil => rfl
  | cons b bs ih =>
    unfold Text.splitAll
    rw [List.count_cons]
    split
    · simp [ih]
    · rcases hs : Text.splitAll sep bs with _ | ⟨piece, pieces⟩
      · rw [hs] at ih
        simp at ih
      · rw [hs] at ih
        simp only [List.length_cons] at ih ⊢
        omega

theorem paramCount_eq (l : Line) : l.paramCount = l.raw.count comma := by
  unfold paramCount params fields
  rw [List.length_map, List.length_tail, length_splitAll]
  rfl

/-! ### The two forms -/

theorem raw_injective : Function.Injective raw := by
  rintro ⟨xs⟩ ⟨ys⟩ h
  exact congrArg mk h

section Forms

variable {word : Bytes} (h : colon ∉ word) (rest : Bytes)
include h

theorem raw_colon : (parse (word ++ colon :: rest)).raw = word ++ comma :: withoutEnd rest := by
  unfold parse
  rw [withoutEnd_append_cons word (by decide)]
  exact replaceFirst_append h _

/-- Behind a comma, the first colon of the parameters is made a comma, too. -/
theorem raw_comma : (parse (word ++ comma :: rest)).raw =
    word ++ comma :: replaceFirst colon comma (withoutEnd rest) := by
  have hcomma : colon ∉ word ++ [comma] := by
    simpa [h] using by decide
  unfold parse
  rw [withoutEnd_append_cons word (by decide), ← List.singleton_append, ← List.append_assoc,
    replaceFirst_append_of_notMem hcomma, List.append_assoc, List.singleton_append]

theorem parse_comma_eq_parse_colon_iff :
    parse (word ++ comma :: rest) = parse (word ++ colon :: rest) ↔ colon ∉ rest := by
  have hparse : parse (word ++ comma :: rest) = parse (word ++ colon :: rest) ↔
      replaceFirst colon comma (withoutEnd rest) = withoutEnd rest := by
    rw [← raw_injective.eq_iff, raw_comma h, raw_colon h]
    simp
  rw [hparse, replaceFirst_eq_self_iff (by decide), colon_mem_withoutEnd]

theorem paramCount_comma (hrest : colon ∈ rest) :
    (parse (word ++ comma :: rest)).paramCount =
      (parse (word ++ colon :: rest)).paramCount + 1 := by
  have hcount := count_replaceFirst (by decide : colon ≠ comma) (colon_mem_withoutEnd.2 hrest)
  rw [paramCount_eq, paramCount_eq, raw_comma h, raw_colon h, List.count_append, List.count_append,
    List.count_cons_self, List.count_cons_self, hcount]
  omega

end Forms

end Line

/-! ### The two forms on a device -/

theorem wellFormed_forms {word rest : Bytes} (hword : word = [Opcode.marker] → rest ≠ [])
    {c : UInt8} (hc : c ≠ Opcode.marker) :
    (ClientCommand.line (word ++ c :: rest)).WellFormed := by
  refine ⟨List.append_ne_nil_of_right_ne_nil word (List.cons_ne_nil c rest), fun code h => ?_⟩
  rcases word with _ | ⟨b, _ | ⟨b', word⟩⟩
  · exact hc (List.cons.inj h).1
  · obtain ⟨rfl, hrest⟩ := List.cons.inj h
    exact hword rfl (List.cons.inj hrest).2
  · have hlength := congrArg List.length h
    simp at hlength

section Device

variable {W R D : Type} [HostStorage W R] [SettingsStore W] [KeyStorage W] [DriveBay D]

theorem receive_eq_of_parse {xs ys : Bytes} (hx : (ClientCommand.line xs).WellFormed)
    (hy : (ClientCommand.line ys).WellFormed) (h : Line.parse xs = Line.parse ys)
    {d : Device W R D} (hd : d.pending = .idle) : receive xs d = receive ys d := by
  have hxs : d.pending.decode xs = (.line (.parse ys), .idle) := by
    rw [hd, decode_line hx.1 hx.2, h]
  have hys : d.pending.decode ys = (.line (.parse ys), .idle) := by
    rw [hd, decode_line hy.1 hy.2]
  rw [receive_of_decode hxs, receive_of_decode hys]
  simp only [runFrame]

end Device

/-- **The two forms of a line are read alike if and only if there is no colon in the parameters**,
and run alike then on every device with nothing pending, unless they are so short that they look
like opcodes. A colon in the parameters makes one parameter more of the form with a comma. -/
theorem comma_form_eq_colon_form_iff {word : Bytes} (hcolon : Line.colon ∉ word) (rest : Bytes) :
    let commaForm := word ++ Line.comma :: rest
    let colonForm := word ++ Line.colon :: rest
    (Line.parse commaForm = Line.parse colonForm ↔ Line.colon ∉ rest) ∧
      (Line.colon ∈ rest →
        (Line.parse commaForm).paramCount = (Line.parse colonForm).paramCount + 1) ∧
      (Line.colon ∉ rest → (word = [Opcode.marker] → rest ≠ []) →
        ∀ {W R D : Type} [HostStorage W R] [SettingsStore W] [KeyStorage W] [DriveBay D]
          (d : Device W R D), d.pending = .idle → receive commaForm d = receive colonForm d) := by
  intro commaForm colonForm
  have hparse := Line.parse_comma_eq_parse_colon_iff hcolon rest
  refine ⟨hparse, Line.paramCount_comma hcolon rest, fun hrest hword W R D _ _ _ _ d hd => ?_⟩
  exact receive_eq_of_parse (wellFormed_forms hword (by decide))
    (wellFormed_forms hword (by decide)) (hparse.2 hrest) hd

/-- Mounting a disk: both forms are read alike and do the same. -/
theorem comma_form_eq_colon_form_mount :
    let word := Text.encode "MOUNTDRIVE"
    let rest := Text.encode "0,1"
    let d : Memory.Adapter := Memory.Surroundings.start {}
    Line.colon ∉ word ∧ word ≠ [Opcode.marker] ∧ Line.colon ∉ rest ∧
      Line.parse (word ++ Line.comma :: rest) = Line.parse (word ++ Line.colon :: rest) ∧
      receive (word ++ Line.comma :: rest) d = receive (word ++ Line.colon :: rest) d := by
  intro word rest d
  have hcolon : Line.colon ∉ word := by decide +kernel
  have hword : word ≠ [Opcode.marker] := by decide +kernel
  have hrest : Line.colon ∉ rest := by decide +kernel
  obtain ⟨hparse, -, hrun⟩ := comma_form_eq_colon_form_iff hcolon rest
  exact ⟨hcolon, hword, hrest, hparse.2 hrest, hrun hrest (fun h => absurd h hword) d rfl⟩

/-- **A host name with a port is cut in two behind a comma**: the host slot is given the name
without its port, while the form with a colon gives it the whole name. -/
theorem comma_form_loses_port :
    let word := Text.encode "PUTHOST"
    let rest := Text.encode "1,tnfs.example.org:16384"
    let commaForm := word ++ Line.comma :: rest
    let colonForm := word ++ Line.colon :: rest
    let d : Memory.Adapter := Memory.Surroundings.start {}
    let name := fun payload : Bytes => ((receive payload d).2.rack.hosts.get 1).hostname
    Line.colon ∉ word ∧ Line.comma ∉ word ∧
      Line.parse commaForm ≠ Line.parse colonForm ∧
      (Line.parse colonForm).params = ["1", "tnfs.example.org:16384"] ∧
      (Line.parse commaForm).params = ["1", "tnfs.example.org", "16384"] ∧
      name colonForm = "tnfs.example.org:16384" ∧ name commaForm = "tnfs.example.org" := by
  decide +kernel

end StorageAdapter
