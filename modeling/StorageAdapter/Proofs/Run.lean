import StorageAdapter.Proofs.Frames

/-! # Runs

A device is moved by frames, by resets of the bus, by operations that are called directly and by
what happens to the storage, the drives and the radio from outside. What the operations uphold holds
along every run of such moves (`Upheld.run`), and what the moves yield is its trace
(`Device.trace`). -/

namespace StorageAdapter

open StorageAdapter.Action StorageAdapter.Device

/-- What may happen to a device over storage `W` and drives `D`. -/
inductive Move (W D : Type) where
  | frame (payload : Bytes)
  | resetBus
  | call (o : Operation)
  /-- The world around the device changes. -/
  | outside (storage : W → W) (drives : D → D) (radio : Radio → Radio)

variable {W R D : Type} [HostStorage W R] [SettingsStore W] [KeyStorage W] [DriveBay D]

/-! ### Where runs begin -/

/-- The rack with the bus devices switched as the settings say. -/
def Rack.switched (settings : Settings) (r : Rack W R D) : Rack W R D :=
  { r with drives := applySwitches settings r.drives }

omit [KeyStorage W] in
theorem rack_start (storage : W) (drives : D) (radio : Radio) (board : Board)
    (digester : Digester) :
    (Device.start storage drives radio board digester : Device W R D).rack =
      (Rack.fill (Device.start storage drives radio board digester : Device W R D).settings
        { storage, drives }).switched
          (Device.start storage drives radio board digester : Device W R D).settings := rfl

omit [KeyStorage W] in
/-- A device starts with the settings of its storage, or with the default ones if these cannot be
loaded. -/
theorem settings_start_eq (w : W) (drives : D) (radio : Radio) (board : Board)
    (digester : Digester) :
    (Device.start w drives radio board digester : Device W R D).settings =
      (SettingsStore.load w).toOption.getD {} := by
  unfold Device.start
  rcases SettingsStore.load w with e | settings <;> rfl

omit [KeyStorage W] in
theorem settings_start {w : W} {settings : Settings} (h : SettingsStore.load w = .ok settings)
    (drives : D) (radio : Radio) (board : Board) (digester : Digester) :
    (Device.start w drives radio board digester : Device W R D).settings = settings := by
  rw [settings_start_eq, h]
  rfl

omit [KeyStorage W] in
/-- A device that starts uses the hosts at most, and has no cursor. -/
theorem start_reached (storage : W) (drives : D) (radio : Radio) (board : Board)
    (digester : Digester) :
    let d : Device W R D := Device.start storage drives radio board digester
    Reached storage d.rack.storage ∧ d.rack.cursor = {} := by
  intro d
  have hr : d.rack = (Rack.fill d.settings { storage, drives }).switched d.settings := rack_start ..
  rw [hr]
  exact Rack.fill_reached d.settings ({ storage, drives } : Rack W R D)

/-! ### Moves -/

/-- The device after a move. -/
def Device.move (d : Device W R D) : Move W D → Device W R D
  | .frame payload => (receive payload d).2
  | .resetBus => d.resetBus
  | .call o => o.perform.after d
  | .outside storage drives radio =>
    { d with
      rack := { d.rack with storage := storage d.rack.storage, drives := drives d.rack.drives }
      radio := radio d.radio }

/-- The device after a run of moves. -/
def Device.run (d : Device W R D) (moves : List (Move W D)) : Device W R D := moves.foldl move d

/-- What a move asks the device for. -/
def Move.request (d : Device W R D) : Move W D → Request
  | .frame payload => asked payload d
  | .call o => .ok (some o)
  | .resetBus | .outside _ _ _ => .ok none

/-- The requests of a run, in turn. -/
def Device.requests (d : Device W R D) : List (Move W D) → List Request
  | [] => []
  | m :: moves => m.request d :: (d.move m).requests moves

/-- What the moves of a run yield, in turn. -/
def Device.trace {α : Type} (f : Device W R D → Move W D → Option α) (d : Device W R D) :
    List (Move W D) → List α
  | [] => []
  | m :: moves => (f d m).toList ++ (d.move m).trace f moves

theorem run_append (d : Device W R D) (xs ys : List (Move W D)) :
    d.run (xs ++ ys) = (d.run xs).run ys := List.foldl_append

theorem run_concat (d : Device W R D) (moves : List (Move W D)) (m : Move W D) :
    d.run (moves ++ [m]) = (d.run moves).move m := run_append d moves [m]

theorem requests_append (d : Device W R D) (xs ys : List (Move W D)) :
    d.requests (xs ++ ys) = d.requests xs ++ (d.run xs).requests ys := by
  induction xs generalizing d with
  | nil => rfl
  | cons m xs ih =>
    show m.request d :: (d.move m).requests (xs ++ ys) = _
    rw [ih]
    rfl

theorem trace_concat {α : Type} (f : Device W R D → Move W D → Option α) (d : Device W R D)
    (moves : List (Move W D)) (m : Move W D) :
    d.trace f (moves ++ [m]) = d.trace f moves ++ (f (d.run moves) m).toList := by
  induction moves generalizing d with
  | nil => exact List.append_nil _
  | cons m' moves ih =>
    show (f d m').toList ++ (d.move m').trace f (moves ++ [m]) = _
    rw [ih, ← List.append_assoc]
    rfl

/-- A predicate in which what is pending, waiting or told has no part. -/
def IgnoresNotes (I : Device W R D → Prop) : Prop :=
  ∀ {d}, I d → ∀ pending response status, I { d with pending, response, status }

section Requests

variable {P I : Device W R D → Prop}

/-- Serving a request leads where the operation leads that it asks for. -/
theorem ends_serve (hPI : ∀ {d}, P d → I d) {r : Request}
    (h : ∀ o, r = .ok (some o) → Ends P o.perform (fun _ => I) fun _ => I) :
    Ends P r.serve (fun _ => I) fun _ => I := by
  rcases r with e | _ | o
  · exact ends_throw fun _ => hPI
  · exact ends_pure fun _ => hPI
  · exact h o rfl

variable (hP : IgnoresNotes P) (hI : IgnoresNotes I)
include hP hI

/-- A frame leads where serving its request leads. -/
theorem ends_receive {payload : Bytes} {d : Device W R D}
    (h : Ends P (asked payload d).serve (fun _ => I) fun _ => I) (hd : P d) :
    I (receive payload d).2 := by
  obtain ⟨pending, response, status, hr⟩ := receive_served payload d
  rw [hr]
  exact hI (ends_after.1 h _ (hP hd _ _ _)) pending response status

/-- A move that asks for an operation leads where the operation leads. -/
theorem ends_move {m : Move W D} {d : Device W R D} {o : Operation}
    (hm : m.request d = .ok (some o)) (h : Ends P o.perform (fun _ => I) fun _ => I) (hd : P d) :
    I (d.move m) := by
  cases m with
  | frame payload =>
    have hm : asked payload d = .ok (some o) := hm
    exact ends_receive hP hI (hm ▸ h) hd
  | call o' =>
    obtain rfl : o' = o := Option.some.inj (Except.ok.inj hm)
    exact ends_after.1 h d hd
  | resetBus => cases hm
  | outside storage drives radio => cases hm

end Requests

section Moves

variable {I J : Device W R D → Prop}

/-- **One move leads where the operation leads that it asks for**, if a reset of the bus and what
happens outside lead there, too. -/
theorem move_leads {P Q : Device W R D → Prop} (hP : IgnoresNotes P) (hQ : IgnoresNotes Q)
    (hPQ : ∀ {d}, P d → Q d) {d : Device W R D} (m : Move W D)
    (hperform : ∀ o, m.request d = .ok (some o) → Ends P o.perform (fun _ => Q) fun _ => Q)
    (hreset : m = .resetBus → P d → Q d.resetBus)
    (hout : ∀ storage drives radio, m = .outside storage drives radio → P d → Q (d.move m))
    (hd : P d) : Q (d.move m) := by
  cases m with
  | frame payload => exact ends_receive hP hQ (ends_serve hPQ hperform) hd
  | resetBus => exact hreset rfl hd
  | call o => exact ends_after.1 (hperform o rfl) d hd
  | outside storage drives radio => exact hout storage drives radio rfl hd

/-- **One move keeps a predicate** if the operation that it asks for does, a reset of the bus and
what happens outside. -/
theorem keeps_move (hnotes : IgnoresNotes I) {d : Device W R D} (m : Move W D)
    (hperform : ∀ o, m.request d = .ok (some o) → Keeps I o.perform)
    (hreset : m = .resetBus → I d → I d.resetBus)
    (hout : ∀ storage drives radio, m = .outside storage drives radio → I d → I (d.move m))
    (hd : I d) : I (d.move m) :=
  move_leads hnotes hnotes id m hperform hreset hout hd

/-- **One move keeps what is sustained** if the operation that it asks for does. -/
theorem Sustained.move (h : Sustained I J) (hnotes : IgnoresNotes I) {d : Device W R D}
    (m : Move W D) (hperform : ∀ o, m.request d = .ok (some o) → Keeps I o.perform)
    (hout : ∀ storage drives radio, m = .outside storage drives radio → I d → I (d.move m))
    (hd : I d) : I (d.move m) := by
  refine keeps_move hnotes m hperform (fun _ hd => ?_) hout hd
  have hc := h.key (h.close hd) d.appKey.closed .nothing
  exact hnotes hc _ _ _

namespace Upheld

/-- **One move keeps what is upheld.** -/
theorem move (h : Upheld I J) (hnotes : IgnoresNotes I) {d : Device W R D} (m : Move W D)
    (hopen : ∀ slot path pattern, m.request d = .ok (some (.openDirectory slot path pattern)) →
      Keeps I (Operation.openDirectory slot path pattern).perform)
    (hout : ∀ storage drives radio, m = .outside storage drives radio → I d → I (d.move m))
    (hd : I d) : I (d.move m) :=
  h.toSustained.move hnotes m (fun o hm => h.perform o fun slot path pattern ho =>
    ho ▸ hopen slot path pattern (ho ▸ hm)) hout hd

/-- **A run keeps what is upheld**, if the predicate does not look at listings and what happens
outside keeps it. -/
theorem run (h : Upheld I J) (hnotes : IgnoresNotes I)
    (hlistings : ∀ {d r}, I d → Rack.SameButListings d.rack r → I (d.setRack r))
    {moves : List (Move W D)} (hout : ∀ storage drives radio,
      Move.outside storage drives radio ∈ moves →
        ∀ d, I d → I (d.move (.outside storage drives radio)))
    {d : Device W R D} (hd : I d) : I (d.run moves) := by
  refine List.foldlRecOn moves Device.move hd fun e he m hm => ?_
  refine h.move hnotes m (fun slot path pattern _ => ?_) (fun storage drives radio hs he => ?_) he
  · exact keeps_openDirectory hlistings slot path pattern
  · subst hs
    exact hout storage drives radio hm e he

end Upheld

end Moves

end StorageAdapter
