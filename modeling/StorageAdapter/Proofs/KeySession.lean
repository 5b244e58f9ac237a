import Mathlib.Data.List.Induction
import StorageAdapter.Proofs.Notes

/-! # Key sessions along a run

A key session begins when a key is opened; it ends when it is closed, when something is written
under it and when the bus is reset. Nothing else touches it (`appKey_move`), and nothing but a write
touches what the card holds (`Device.Holding.move`, `move_writeKey`). So the key that is open is the
one that was opened last, and what was asked for since has left the session alone (`opened_run`). -/

namespace StorageAdapter

open StorageAdapter.Action StorageAdapter.Device

/-! ### Keys -/

namespace AppKey

/-- Creator, application and key, which the file of a key is named after. -/
abbrev Name := UInt16 × UInt8 × UInt8

def name (k : AppKey) : Name := (k.creator, k.app, k.key)

/-- A write under the key may reach the card. -/
def Writable (k : AppKey) : Prop := k.creator ≠ 0 ∧ k.access = .write

/-- A read under the key may reach the card. -/
def Readable (k : AppKey) : Prop := k.creator ≠ 0 ∧ k.access = .read

instance (k : AppKey) : Decidable k.Writable := inferInstanceAs (Decidable (_ ∧ _))

instance (k : AppKey) : Decidable k.Readable := inferInstanceAs (Decidable (_ ∧ _))

@[simp] theorem creator_closed (k : AppKey) : k.closed.creator = 0 := rfl

theorem not_writable_closed (k : AppKey) : ¬k.closed.Writable := fun h => h.1 k.creator_closed

end AppKey

variable {W R D : Type}

/-! ### What moves ask of the key -/

/-- The key session after a request was served. -/
def Request.session (r : Request) (k : AppKey) : AppKey :=
  match r with
  | .ok (some (.openKey k')) => k'
  | .ok (some (.writeKey _)) | .ok (some .closeKey) => k.closed
  | _ => k

/-- The key session after a move. -/
def Move.session (m : Move W D) (d : Device W R D) : AppKey :=
  match m with
  | .resetBus => d.appKey.closed
  | m => (m.request d).session d.appKey

/-- The move opens a key, closes it or writes under it, whether or not that succeeds, or resets the
bus. -/
def Move.TurnsKey (m : Move W D) (d : Device W R D) : Prop :=
  m = .resetBus ∨ ∃ o : Operation, m.request d = .ok (some o) ∧ o.handlesKeys

theorem session_of_request {m : Move W D} {d : Device W R D} {r : Request} (hm : m.request d = r)
    (hr : r ≠ .ok none) : m.session d = r.session d.appKey := by
  subst hm
  cases m with
  | resetBus => exact absurd rfl hr
  | _ => rfl

theorem session_of_not_turnsKey {m : Move W D} {d : Device W R D} (h : ¬m.TurnsKey d) :
    m.session d = d.appKey := by
  cases m with
  | resetBus => exact absurd (.inl rfl) h
  | _ =>
    unfold Move.session
    simp only
    unfold Request.session
    split
    · next k hk => exact absurd (.inr ⟨_, hk, rfl⟩) h
    · next data hk => exact absurd (.inr ⟨_, hk, rfl⟩) h
    · next hk => exact absurd (.inr ⟨_, hk, rfl⟩) h
    · rfl

/-- A move that turns the key opens one or leaves no session. -/
theorem opens_or_creator_eq_zero {m : Move W D} {d : Device W R D} (h : m.TurnsKey d) :
    m.request d = .ok (some (.openKey (m.session d))) ∨ (m.session d).creator = 0 := by
  rcases h with rfl | ⟨o, hm, ho⟩
  · exact .inr rfl
  · rw [hm, session_of_request hm nofun]
    cases o with
    | openKey k => exact .inl rfl
    | writeKey _ | closeKey => exact .inr rfl
    | _ => cases ho

variable [HostStorage W R] [SettingsStore W]

/-! ### What leaves the keys alone -/

/-- Neither the use of hosts nor saving settings touches what is said of the storage. -/
structure Untouched (S : W → Prop) : Prop where
  reached : ∀ {v w}, S v → Reached v w → S w
  save : ∀ {w}, S w → ∀ settings, S ((SettingsStore.save settings).after w)

theorem untouched_true : Untouched (fun _ : W => True) := ⟨fun _ _ => trivial, fun _ _ => trivial⟩

/-- The key session is `k`, and something is said of the storage. -/
def Device.Holding (k : AppKey) (S : W → Prop) (d : Device W R D) : Prop :=
  d.appKey = k ∧ S d.rack.storage

variable [DriveBay D]

theorem carried_holding {S : W → Prop} (hS : Untouched S) (k : AppKey) :
    Carried (Device.Holding k S : Device W R D → Prop) (Device.Holding k S) where
  weaken h := h
  before := ⟨fun h hw => ⟨h.1, hS.reached h.2 hw⟩, fun h _ _ _ => h⟩
  during := ⟨fun h hw => ⟨h.1, hS.reached h.2 hw⟩, fun h _ _ _ => h⟩
  aside h _ _ := h
  unmount h _ := h
  close {d} h := by
    refine ⟨h.1, ?_⟩
    rw [rack_setRack, (Rack.SameButListings.refl d.rack).closeDirectory.storage]
    exact h.2
  follow _ := ⟨fun h _ => h, fun h _ _ _ _ => h, fun h _ => h⟩
  rename {d} h i name := by
    obtain ⟨w, cursor, hw, hr⟩ := renameHost_eq i name d.rack
    rw [hr]
    exact ⟨h.1, hS.reached h.2 hw⟩
  load h _ _ _ := h
  wifi h _ := h
  boot h _ _ := h
  switch h _ _ := h
  save h := by
    rw [after_save]
    exact ⟨h.1, hS.save h.2 _⟩

variable [KeyStorage W]

/-- **An operation that is not about keys** leaves the session and the storage alone. -/
theorem keeps_holding {S : W → Prop} (hS : Untouched S) (k : AppKey) {o : Operation}
    (ho : ¬o.handlesKeys) : Keeps (Device.Holding k S : Device W R D → Prop) o.perform := by
  refine (carried_holding hS k).perform o ho (fun slot path pattern h => ?_) (fun _ d hd _ => hd)
    (fun _ d hd => ?_) (fun i _ d hd => hd) fun i _ d hd filename host mode => ?_
  · subst h
    refine keeps_openDirectory (fun hd hl => ⟨hd.1, ?_⟩) slot path pattern
    rw [rack_setRack, hl.storage]
    exact hd.2
  · exact ⟨hd.1, hS.reached hd.2 (Rack.fill_reached d.settings d.rack).1⟩
  · obtain ⟨drives, hr⟩ := Rack.assign_eq i (.assigned filename host mode) d.rack
    rw [hr]
    exact hd

/-! ### One move -/

/-- **A write** ends the session and works on the storage under the key that was open. -/
theorem move_writeKey {m : Move W D} {d : Device W R D} {data : Bytes}
    (hm : m.request d = .ok (some (.writeKey data))) :
    (d.move m).appKey = d.appKey.closed ∧
      (d.move m).rack.storage = (KeySession.writeFile d.appKey data).after d.rack.storage := by
  obtain ⟨p, q, s, h⟩ := move_served hm nofun
  have hserve : (Request.serve (.ok (some (.writeKey data)))).after d = _ := after_writeKey data d
  rw [hserve] at h
  rw [h]
  exact ⟨rfl, rfl⟩

theorem holding_serve {S : W → Prop} (hS : Untouched S) {d : Device W R D} {k : AppKey}
    (hd : d.Holding k S) {r : Request} (hr : ∀ data, r ≠ .ok (some (.writeKey data))) :
    (r.serve.after d).Holding (r.session k) S := by
  rcases r with e | _ | o
  · exact hd
  · exact hd
  by_cases ho : o.handlesKeys
  · cases o with
    | openKey k' => exact ⟨rfl, hd.2⟩
    | closeKey => exact ⟨congrArg AppKey.closed hd.1, hd.2⟩
    | writeKey data => exact absurd rfl (hr data)
    | _ => cases ho
  · have hsession : Request.session (.ok (some o)) k = k := by
      cases o with
      | openKey _ | writeKey _ | closeKey => exact absurd rfl ho
      | _ => rfl
    rw [hsession]
    exact keeps_iff.1 (keeps_holding hS k ho) d hd

/-- **A move that does not write** changes the key session as it asks for, and nothing that using
hosts and saving leave alone. -/
theorem Device.Holding.move {S : W → Prop} (hS : Untouched S) {d : Device W R D} {k : AppKey}
    (hd : d.Holding k S) {m : Move W D} (hwrite : ∀ data, m.request d ≠ .ok (some (.writeKey data)))
    (hout : ∀ storage drives radio, m = .outside storage drives radio →
      S d.rack.storage → S (storage d.rack.storage)) : (d.move m).Holding (m.session d) S := by
  obtain ⟨rfl, hs⟩ := hd
  cases m with
  | frame payload =>
    obtain ⟨status, h⟩ := receive_eq payload d
    have hserve := holding_serve hS ⟨rfl, hs⟩ (r := asked payload d) hwrite
    show (receive payload d).2.Holding ((asked payload d).session d.appKey) S
    rw [h]
    exact hserve
  | resetBus =>
    refine ⟨rfl, ?_⟩
    show S d.rack.closeDirectory.storage
    rw [(Rack.SameButListings.refl d.rack).closeDirectory.storage]
    exact hs
  | call o => exact holding_serve hS ⟨rfl, hs⟩ (r := .ok (some o)) hwrite
  | outside storage drives radio => exact ⟨rfl, hout storage drives radio rfl hs⟩

/-- **The key session changes only as it is asked to.** -/
theorem appKey_move (m : Move W D) (d : Device W R D) : (d.move m).appKey = m.session d := by
  by_cases hwrite : ∃ data, m.request d = .ok (some (.writeKey data))
  · obtain ⟨data, hm⟩ := hwrite
    rw [session_of_request hm nofun, (move_writeKey hm).1]
    rfl
  · have hholding : d.Holding d.appKey fun _ => True := ⟨rfl, trivial⟩
    exact (hholding.move untouched_true (fun data hm => hwrite ⟨data, hm⟩) fun _ _ _ _ _ =>
      trivial).1

/-! ### Runs -/

/-- No move of the run turns the key. -/
def Device.KeepsSession (d : Device W R D) : List (Move W D) → Prop
  | [] => True
  | m :: moves => ¬m.TurnsKey d ∧ (d.move m).KeepsSession moves

/-- The run opens the key, and what comes after that does not turn it. -/
def Device.Opened (d : Device W R D) (moves : List (Move W D)) (k : AppKey) : Prop :=
  ∃ earlier opening since, moves = earlier ++ opening :: since ∧
    opening.request (d.run earlier) = .ok (some (.openKey k)) ∧
    (d.run (earlier ++ [opening])).KeepsSession since

theorem keepsSession_append {d : Device W R D} {xs ys : List (Move W D)} :
    d.KeepsSession (xs ++ ys) ↔ d.KeepsSession xs ∧ (d.run xs).KeepsSession ys := by
  induction xs generalizing d with
  | nil => exact (and_iff_right trivial).symm
  | cons m xs ih =>
    show ¬m.TurnsKey d ∧ (d.move m).KeepsSession (xs ++ ys) ↔ _
    rw [ih]
    exact and_assoc.symm

/-- **A session that is open was begun by the move that opened its key**, and nothing has turned the
key since. -/
theorem opened_run {d : Device W R D} (hd : d.appKey.creator = 0) (moves : List (Move W D))
    (h : (d.run moves).appKey.creator ≠ 0) : d.Opened moves (d.run moves).appKey := by
  induction moves using List.reverseRecOn with
  | nil => exact absurd hd h
  | append_singleton moves m ih =>
    rw [run_concat, appKey_move] at h ⊢
    -- the last move opened the key, or it left alone the key that was open before it
    by_cases hturns : m.TurnsKey (d.run moves)
    · have hopens := (opens_or_creator_eq_zero hturns).resolve_right h
      exact ⟨moves, m, [], rfl, hopens, trivial⟩
    · rw [session_of_not_turnsKey hturns] at h ⊢
      obtain ⟨earlier, opening, since, hmoves, hopens, hkeeps⟩ := ih h
      have hrun : d.run moves = (d.run (earlier ++ [opening])).run since := by
        rw [← run_append, hmoves, List.append_assoc, List.singleton_append]
      refine ⟨earlier, opening, since ++ [m], ?_, hopens, ?_⟩
      · conv_lhs => rw [hmoves]
        rw [List.append_assoc, List.cons_append]
      · exact keepsSession_append.2 ⟨hkeeps, hrun ▸ hturns, trivial⟩

end StorageAdapter
