import StorageAdapter.Memory.Storage
import StorageAdapter.Proofs.Rack

/-! # Storage in memory under use

Using storage in memory counts mounts and logs images (`of_reached`), and keys are written to the
card. The settings that are kept and the trees of the hosts stay as they are (`used_keeps`). -/

namespace StorageAdapter.Memory.Storage

open StorageAdapter.Action

/-- What is said of a storage leaves out what its hosts count and log. -/
def IgnoresUse (P : Storage → Prop) : Prop :=
  ∀ {w hosts}, P w → hosts.trees = w.hosts.trees → P { w with hosts }

section IgnoresUse

variable {P : Storage → Prop} (hP : IgnoresUse P)
include hP

theorem keeps_connect (name : String) : Keeps P (connect name) :=
  Keeps.get.bind fun _ => Keeps.guard fun _ => Keeps.bind_pure (ends_modify fun _ h => hP h rfl)

theorem keeps_openImage (name path : String) (mode : AccessMode) :
    Keeps P (openImage name path mode) := by
  unfold openImage
  refine Keeps.get.bind fun w => ?_
  rcases w.hosts.fileSize? name (treePath path) with _ | size
  · exact Keeps.throw _
  · exact Keeps.bind_pure (ends_modify fun _ h => hP h rfl)

theorem keeps_release (name : String) : Keeps P (release name) := by
  unfold release
  refine Keeps.bind (ends_modify fun _ h => hP h rfl) fun _ => Keeps.get.bind fun w => ?_
  exact Ends.ite (fun _ => Keeps.throw _) fun _ => Keeps.pure _

/-- **Using the hosts leaves everything but their counts and their log.** -/
theorem of_reached {w v : Storage} (h : Reached w v) (hw : P w) : P v := by
  induction h with
  | nothing => exact hw
  | connect name kind _ ih => exact keeps_iff.1 (keeps_connect hP name) _ ih
  | openImage root path mode _ ih => exact keeps_iff.1 (keeps_openImage hP root path mode) _ ih
  | release root _ ih => exact keeps_iff.1 (keeps_release hP root) _ ih

end IgnoresUse

/-- The storage with these settings and these trees. -/
def Holds (c : Config) (trees : Catalog String (List Node)) (w : Storage) : Prop :=
  w.config = c ∧ w.hosts.trees = trees

theorem ignoresUse_holds (c : Config) (trees : Catalog String (List Node)) :
    IgnoresUse (Holds c trees) := fun h ht => ⟨h.1, ht.trans h.2⟩

/-- **No use of the storage touches the settings or the trees.** -/
theorem used_keeps {w v : Storage} (h : Used w v) : Holds w.config w.hosts.trees v := by
  have hP : IgnoresUse (Holds w.config w.hosts.trees) := ignoresUse_holds _ _
  induction h with
  | nothing => exact ⟨rfl, rfl⟩
  | connect name kind _ ih => exact keeps_iff.1 (keeps_connect hP name) _ ih
  | openImage root path mode _ ih => exact keeps_iff.1 (keeps_openImage hP root path mode) _ ih
  | release root _ ih => exact keeps_iff.1 (keeps_release hP root) _ ih
  | createDir path _ ih => exact ih
  | write path data _ ih =>
    show Holds _ _ ((onCard (KeyStorage.write path data)).after _)
    unfold onCard
    rw [after_on]
    exact ih

theorem connect_ok {w : Storage} {name : String} (h : w.hosts.trees.contains name)
    (kind : HostKind) :
    ∃ v, (HostStorage.connect name kind : Action Storage String) w = .ok name v ∧
      v.hosts.trees = w.hosts.trees := by
  refine ⟨w.changeHosts fun h => h.setMountCount name (h.mountCount name + 1), ?_, rfl⟩
  show connect name w = _
  unfold connect
  rw [bind_apply, get_apply]
  simp only [h]
  rfl

theorem openImage_ok {w : Storage} {name path : String} {size : Nat}
    (h : w.hosts.fileSize? name (treePath path) = some size) (mode : AccessMode) :
    ∃ v, (HostStorage.openImage name path mode : Action Storage Nat) w = .ok size v := by
  refine ⟨w.changeHosts fun h => { h with opened := h.opened ++ [(treePath path, mode)] }, ?_⟩
  show openImage name path mode w = _
  unfold openImage
  simp only [bind_apply, get_apply, h]
  rfl

/-- The nodes in the topmost directory of a tree, the one added last first. -/
def topmost (tree : List Node) : List DirectoryEntry :=
  (tree.reverse.filter fun n => directoryOf n.path == "/").map Node.entry

/-- The topmost directory of a host is listed, whatever the host. -/
theorem list_top (w : Storage) (name : String) : HostStorage.list name "/" none w =
    .ok (DirectoryEntry.inOrder (topmost (w.hosts.tree name))) := by
  show listTree (w.hosts.tree name) "/" none = _
  unfold listTree topmost
  simp only [show treePath "/" = "/" by decide, beq_self_eq_true, Bool.true_or, if_true,
    Option.all_none, Bool.and_true]

end StorageAdapter.Memory.Storage
