import StorageAdapter.Proofs.KeyFiles

/-! # One write for each opening

The files on the card change only when something is written under a key that was opened for writing,
and a write ends the session. So between two openings at most one move changes the card, and it
changes the file of the key that was opened (`card_written_once_per_opening`). -/

namespace StorageAdapter

open StorageAdapter.Action StorageAdapter.Device

/-! ### The same files -/

namespace Memory.Card

/-- The same files and the same directories. -/
def SameFiles (c c' : Card) : Prop := c'.files = c.files ∧ c'.dirs = c.dirs

instance (c c' : Card) : Decidable (c.SameFiles c') := inferInstanceAs (Decidable (_ ∧ _))

variable {c c' c'' : Card}

theorem SameFiles.refl (c : Card) : c.SameFiles c := ⟨rfl, rfl⟩

theorem SameFiles.trans (h : c.SameFiles c') (h' : c'.SameFiles c'') : c.SameFiles c'' :=
  ⟨h'.1.trans h.1, h'.2.trans h.2⟩

theorem get?_withKey_of_ne {k : AppKey} {path : String} (h : path ≠ k.filename) (data : Bytes)
    (c : Card) : (c.withKey k data).files.get? path = c.files.get? path :=
  c.files.get?_put_of_ne h _

end Memory.Card

variable {D : Type} [DriveBay D]

/-- What happens outside leaves the files on the card. The card may be taken out and put back. -/
def Move.LeavesFiles : Move Memory.Storage D → Prop
  | .outside storage _ _ => ∀ w : Memory.Storage, w.card.SameFiles (storage w).card
  | _ => True

section Move

variable {d : Device Memory.Storage String D} {m : Move Memory.Storage D} (hm : m.LeavesFiles)
include hm

/-- **The card changes only when something is written under a key that may be written.** -/
theorem writes_of_changed (h : ¬d.card.SameFiles (d.move m).card) :
    (∃ data, m.request d = .ok (some (.writeKey data))) ∧ d.appKey.Writable := by
  by_cases hwrite : ∃ data, m.request d = .ok (some (.writeKey data))
  · refine ⟨hwrite, ?_⟩
    obtain ⟨data, hwrite⟩ := hwrite
    by_contra hk
    rw [card_writeKey hwrite, if_neg fun hw => hk hw.1] at h
    exact h (.refl _)
  · refine absurd (card_move (S := d.card.SameFiles) (fun data hd => hwrite ⟨data, hd⟩) ?_
      (.refl _)) h
    rintro storage drives radio rfl hsame
    have hleaves : ∀ w : Memory.Storage, w.card.SameFiles (storage w).card := hm
    exact hsame.trans (hleaves _)

theorem sameFiles_move (hk : ¬d.appKey.Writable) : d.card.SameFiles (d.move m).card := by
  by_contra h
  exact hk (writes_of_changed hm h).2

theorem get?_move {path : String} (hpath : d.appKey.Writable → path ≠ d.appKey.filename) :
    (d.move m).card.files.get? path = d.card.files.get? path := by
  by_cases h : d.card.SameFiles (d.move m).card
  · rw [h.1]
  · obtain ⟨⟨data, hwrite⟩, hk⟩ := writes_of_changed hm h
    rw [card_writeKey hwrite]
    split
    · exact Memory.Card.get?_withKey_of_ne (hpath hk) data d.card
    · rfl

end Move

/-! ### Runs that open no key -/

/-- What is asked for opens a key. -/
def Request.opensKey : Request → Bool
  | .ok (some (.openKey _)) => true
  | _ => false

section Run

variable {d : Device Memory.Storage String D} {moves : List (Move Memory.Storage D)}

/-- Without an opening, the session stays or ends. -/
theorem appKey_move_of_not_opensKey {m : Move Memory.Storage D} (h : ¬(m.request d).opensKey)
    (hk : (d.move m).appKey.Writable) : (d.move m).appKey = d.appKey := by
  rw [appKey_move] at hk ⊢
  by_cases hturns : m.TurnsKey d
  · rcases opens_or_creator_eq_zero hturns with hopens | hclosed
    · rw [hopens] at h
      exact absurd rfl h
    · exact absurd hclosed hk.1
  · exact session_of_not_turnsKey hturns

variable (hout : ∀ m ∈ moves, m.LeavesFiles) (hopens : ∀ r ∈ d.requests moves, ¬r.opensKey)
include hout hopens

theorem sameFiles_run (hk : ¬d.appKey.Writable) : d.card.SameFiles (d.run moves).card := by
  induction moves generalizing d with
  | nil => exact .refl _
  | cons m moves ih =>
    have hm : ¬(m.request d).opensKey := hopens _ List.mem_cons_self
    have hmove := sameFiles_move (hout m List.mem_cons_self) hk
    have hk' : ¬(d.move m).appKey.Writable := fun h => hk (appKey_move_of_not_opensKey hm h ▸ h)
    have hrest := ih (fun m' h => hout m' (List.mem_cons_of_mem _ h))
      (fun r h => hopens r (List.mem_cons_of_mem _ h)) hk'
    exact hmove.trans hrest

theorem get?_run {path : String} (hpath : d.appKey.Writable → path ≠ d.appKey.filename) :
    (d.run moves).card.files.get? path = d.card.files.get? path := by
  induction moves generalizing d with
  | nil => rfl
  | cons m moves ih =>
    have hm : ¬(m.request d).opensKey := hopens _ List.mem_cons_self
    have hmove := get?_move (hout m List.mem_cons_self) hpath
    have hpath' : (d.move m).appKey.Writable → path ≠ (d.move m).appKey.filename := by
      intro h
      have hkey := appKey_move_of_not_opensKey hm h
      rw [hkey] at h ⊢
      exact hpath h
    have hrest := ih (fun m' h => hout m' (List.mem_cons_of_mem _ h))
      (fun r h => hopens r (List.mem_cons_of_mem _ h)) hpath'
    exact hrest.trans hmove

/-- **After a write, a run that opens no key leaves the card alone.** -/
theorem sameFiles_after_change {first rest : List (Move Memory.Storage D)}
    {m : Move Memory.Storage D} (hmoves : moves = first ++ m :: rest)
    (hchanged : ¬(d.run first).card.SameFiles ((d.run first).move m).card) :
    ((d.run first).move m).card.SameFiles (d.run moves).card := by
  subst hmoves
  have hm : m.LeavesFiles := hout m (by simp)
  obtain ⟨⟨data, hwrite⟩, -⟩ := writes_of_changed hm hchanged
  -- the move that changed the card has ended the session
  have hk : ¬((d.run first).move m).appKey.Writable := by
    rw [(move_writeKey hwrite).1]
    exact AppKey.not_writable_closed _
  have hrest : ∀ r ∈ ((d.run first).move m).requests rest, ¬r.opensKey := by
    intro r hr
    refine hopens r ?_
    rw [requests_append]
    exact List.mem_append_right _ (List.mem_cons_of_mem _ hr)
  rw [run_append]
  exact sameFiles_run (fun m' h => hout m' (by simp [h])) hrest hk

end Run

/-! ### All runs -/

/-- A run in which nothing is written under a key that was opened for writing leaves the card. -/
theorem sameFiles_of_no_write {d : Device Memory.Storage String D}
    {moves : List (Move Memory.Storage D)} (hout : ∀ m ∈ moves, m.LeavesFiles)
    (hwrite : ∀ before m after data, moves = before ++ m :: after →
      m.request (d.run before) = .ok (some (.writeKey data)) → ¬(d.run before).appKey.Writable) :
    d.card.SameFiles (d.run moves).card := by
  induction moves using List.reverseRecOn with
  | nil => exact .refl _
  | append_singleton moves m ih =>
    have hbefore := ih (fun m' h => hout m' (List.mem_append_left _ h))
      fun before m' after data h => hwrite before m' (after ++ [m]) data (by rw [h]; simp)
    have hlast : (d.run moves).card.SameFiles ((d.run moves).move m).card := by
      by_contra h
      obtain ⟨⟨data, hm⟩, hk⟩ := writes_of_changed (hout m (by simp)) h
      exact hwrite moves m [] data rfl hm hk
    rw [run_concat]
    exact hbefore.trans hlast

/-- **The card is written at most once for each opening.** Along every run in which nothing changes
the files from outside, they change only when something is written under a key that was opened for
writing with nothing opened, closed, written or reset since. Between two openings at most one move
changes the card, and only the file of the key that was opened. -/
theorem card_written_once_per_opening {storage : Memory.Storage} {drives : D} {radio : Radio}
    {board : Board} {digester : Digester} {d : Device Memory.Storage String D}
    (hd : d = Device.start storage drives radio board digester)
    {moves : List (Move Memory.Storage D)} (hout : ∀ m ∈ moves, m.LeavesFiles) :
    (∀ before m after, moves = before ++ m :: after →
      ¬(d.run before).card.SameFiles ((d.run before).move m).card →
        (∃ data, m.request (d.run before) = .ok (some (.writeKey data))) ∧
          ∃ k, k.Writable ∧ d.Opened before k) ∧
      (∀ before opening between after k, moves = before ++ opening :: (between ++ after) →
        opening.request (d.run before) = .ok (some (.openKey k)) →
        let e := d.run (before ++ [opening])
        (∀ r ∈ e.requests between, ¬r.opensKey) →
          (∀ path, path ≠ k.filename →
            (e.run between).card.files.get? path = e.card.files.get? path) ∧
            ∀ first m rest, between = first ++ m :: rest →
              ¬(e.run first).card.SameFiles ((e.run first).move m).card →
                ((e.run first).move m).card.SameFiles (e.run between).card) ∧
      ((∀ before m after data, moves = before ++ m :: after →
        m.request (d.run before) = .ok (some (.writeKey data)) →
          ¬∃ k, k.Writable ∧ d.Opened before k) →
        storage.card.SameFiles (d.run moves).card) := by
  have hclosed : d.appKey.creator = 0 := congrArg (fun d => d.appKey.creator) hd
  refine ⟨fun before m after hmoves hchanged => ?_,
    fun before opening between after k hmoves hopening => ?_, fun hwrite => ?_⟩
  · have hm : m.LeavesFiles := hout m (by simp [hmoves])
    obtain ⟨hwrite, hk⟩ := writes_of_changed hm hchanged
    exact ⟨hwrite, _, hk, opened_run hclosed before hk.1⟩
  · intro e hopens
    have hbetween : ∀ m ∈ between, m.LeavesFiles := fun m h => hout m (by simp [hmoves, h])
    have hkey : e.appKey = k := by
      show (d.run (before ++ [opening])).appKey = k
      rw [run_concat, appKey_move, session_of_request hopening nofun]
      rfl
    refine ⟨fun path hpath => get?_run hbetween hopens fun _ => hkey ▸ hpath,
      fun first m rest hfirst hchanged => ?_⟩
    exact sameFiles_after_change hbetween hopens hfirst hchanged
  · have hstart : d.card = storage.card := hd ▸ card_start storage drives radio board digester
    rw [← hstart]
    refine sameFiles_of_no_write hout fun before m after data hmoves hm hk => ?_
    exact hwrite before m after data hmoves hm ⟨_, hk, opened_run hclosed before hk.1⟩

/-- A key is opened for writing, the card is taken out and put back, and a line writes the key. -/
theorem card_written_once_per_opening_reinserted :
    let d : Memory.Adapter := Memory.Surroundings.start {}
    let before : List (Move Memory.Storage Memory.Drives) :=
      [.frame [Opcode.marker, Opcode.openAppKey.code], .frame [0x34, 0x12, 1, 2, 1, 0],
        .outside (Memory.Storage.changeCard fun c => { c with inserted := false }) id id,
        .outside (Memory.Storage.changeCard fun c => { c with inserted := true }) id id]
    let write : Move Memory.Storage Memory.Drives := .frame (Text.encode "WRITEAPPKEY:3,abc")
    (∀ m ∈ before ++ [write, write], m.LeavesFiles) ∧
      ¬(d.run before).card.SameFiles ((d.run before).move write).card ∧
      ∃ k, k.Writable ∧ d.Opened before k := by
  intro d before write
  have hout : ∀ m ∈ before ++ [write, write], m.LeavesFiles := by
    simp only [before, List.cons_append, List.nil_append, List.forall_mem_cons]
    exact ⟨trivial, trivial, fun w => ⟨rfl, rfl⟩, fun w => ⟨rfl, rfl⟩, trivial, trivial, nofun⟩
  have hchanged : ¬(d.run before).card.SameFiles ((d.run before).move write).card := by
    decide +kernel
  have hd : d = Device.start {} {} {} { version := "dummy-0.1.0" } DigestAlgorithm.digest := rfl
  clear_value d
  have hopened := ((card_written_once_per_opening hd hout).1 before write [write] rfl hchanged).2
  exact ⟨hout, hchanged, hopened⟩

end StorageAdapter
