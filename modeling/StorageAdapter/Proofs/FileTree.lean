import Mathlib.Tactic.Common
import StorageAdapter.Folder.FileTree

/-! # Files that are replaced

Where a path leads depends on the directories of the tree alone, so replacing a file leaves all
walks as they were (`walkFrom_put`). Whether a file can be replaced does not depend on what is
written (`writeFile_cases`), and where it could be once, it can be again (`writeFile_put`). Making a
directory that is there already changes nothing (`makeDirs_of_isDir`). -/

namespace StorageAdapter

theorem Catalog.put_put {κ α : Type} [DecidableEq κ] (c : Catalog κ α) (k : κ) (a b : α) :
    (c.put k a).put k b = c.put k b := by
  have hentries : ∀ l : List (κ × α), putIn k b (putIn k a l) = putIn k b l := by
    intro l
    fun_induction putIn k a l with
    | case1 => simp [putIn]
    | case2 => simp [putIn]
    | case3 k' a' rest hne ih => simp [putIn, hne, ih]
  exact congrArg Catalog.mk (hentries c.entries)

namespace Folder.FileTree

variable {t : FileTree} {p q here dir target : Path} {name : String} {item : Item}

/-! ### Walks -/

theorem item?_put_self (hne : p ≠ []) : (t.put p item).item? p = some item := by
  unfold item? put
  rw [if_neg hne, Catalog.get?_put_self]

theorem item?_put_of_ne (h : q ≠ p) : (t.put p item).item? q = t.item? q := by
  unfold item? put
  rw [Catalog.get?_put_of_ne _ h]

/-- A walk goes on behind a path as from the place that this leads to. -/
theorem walkFrom_append (t : FileTree) (here p q : Path) :
    t.walkFrom here (p ++ q) = (t.walkFrom here p).bind (t.walkFrom · q) := by
  induction p generalizing here with
  | nil => rfl
  | cons part p ih =>
    rw [List.cons_append, walkFrom, walkFrom]
    split_ifs
    · rfl
    · exact ih here
    · rfl
    · rfl
    · exact ih _

theorem exists_walkFrom_of_append (h : t.walkFrom here (p ++ q) = .ok dir) :
    ∃ d, t.walkFrom here p = .ok d ∧ t.walkFrom d q = .ok dir := by
  rw [walkFrom_append] at h
  rcases hp : t.walkFrom here p with f | d
  · rw [hp] at h
    exact nomatch h
  · rw [hp] at h
    exact ⟨d, rfl, h⟩

/-- A file in place of another one, or of none, leaves the directories as they were. -/
theorem isDirAt_put (htarget : t.isDirAt target = false) (hitem : item.isDir = false)
    (hne : target ≠ []) (p : Path) : (t.put target item).isDirAt p = t.isDirAt p := by
  by_cases hp : p = target
  · subst hp
    rw [htarget]
    unfold isDirAt
    rw [item?_put_self hne]
    exact hitem
  · unfold isDirAt
    rw [item?_put_of_ne hp]

/-- **A file in place of another one, or of none, leaves walks as they were.** -/
theorem walkFrom_put (htarget : t.isDirAt target = false) (hitem : item.isDir = false)
    (hne : target ≠ []) (h : t.walkFrom here p = .ok dir) :
    (t.put target item).walkFrom here p = .ok dir := by
  induction p generalizing here with
  | nil => exact h
  | cons part p ih =>
    unfold walkFrom at h ⊢
    rw [isDirAt_put htarget hitem hne]
    split_ifs at h ⊢ with hdir hstays hlong hnone hnone' hnone'
    · exact ih h
    · -- what was there is still there
      by_cases heq : here ++ [part] = target
      · rw [heq, item?_put_self hne] at hnone
        exact nomatch hnone
      · rw [item?_put_of_ne heq] at hnone
        exact absurd hnone hnone'
    · exact ih h

/-! ### Files -/

theorem place_eq (t : FileTree) (p : Path) (name : String) : t.place p name =
    match Path.fault? (p ++ [name]) with
    | some f => .error f
    | none => (t.walkFrom [] p).bind fun dir =>
      if !t.isDirAt dir then .error .notDirectory
      else if Path.nameLimit < Text.size name then .error .nameTooLong
      else .ok (dir ++ [name]) := by
  unfold place
  rcases Path.fault? (p ++ [name]) with _ | f
  · rcases t.walkFrom [] p with f | dir
    · rfl
    · show (if !t.isDirAt dir then _ else _) = (if !t.isDirAt dir then _ else _)
      split_ifs <;> rfl
  · rfl

/-- The place of a new item is below the directory that a path leads to. -/
theorem place_eq_ok_iff : t.place p name = .ok target ↔ ∃ dir, Path.fault? (p ++ [name]) = none ∧
    t.walkFrom [] p = .ok dir ∧ t.isDirAt dir = true ∧ ¬Path.nameLimit < Text.size name ∧
    dir ++ [name] = target := by
  rw [place_eq]
  rcases Path.fault? (p ++ [name]) with _ | f
  · rcases t.walkFrom [] p with f | dir
    · simp [Except.bind]
    · by_cases hdir : t.isDirAt dir = true <;>
        by_cases hlong : Path.nameLimit < Text.size name <;> simp [Except.bind, hdir, hlong]
  · simp

theorem liftM_ok_bind {α β : Type} (a : α) (f : α → Change β) :
    ((liftM (.ok a : Except Fault α) : Change α) >>= f) = f a := rfl

/-- A file that was last written at some time. -/
def fileAt (data : Bytes) (time : Int) : Item := ⟨some { bytes := data }, time⟩

/-- The time that a file put at a place has, which is that of the file that was there. -/
def timeAt (t : FileTree) (target : Path) : Int := (t.item? target).elim 0 Item.modified

theorem writeFile_eq (p : Path) (data : Bytes) (t : FileTree) : writeFile p data t =
    if Path.stays (p.getLastD "") then .error .isDirectory t
    else match t.place p.dropLast (p.getLastD "") with
      | .error f => .error f t
      | .ok target =>
        if t.isDirAt target then .error .isDirectory t
        else .ok () (t.put target (fileAt data (t.timeAt target))) := by
  unfold writeFile
  show (if Path.stays (p.getLastD "") then _ else _ : Change Unit) t = _
  split_ifs with hstays
  · rfl
  rcases t.place p.dropLast (p.getLastD "") with f | target
  · rfl
  · rw [liftM_ok_bind]
    by_cases hdir : t.isDirAt target = true
    · refine Eq.trans ?_ (if_pos hdir).symm
      obtain ⟨item, hitem, hisDir⟩ : ∃ item, t.item? target = some item ∧ item.isDir = true := by
        exact (Option.any_eq_true _ _).1 hdir
      rw [hitem]
      show (if item.isDir = true then _ else _ : Change Unit) t = _
      rw [if_pos hisDir]
      rfl
    · refine Eq.trans ?_ (if_neg hdir).symm
      rcases hitem : t.item? target with _ | item
      · simp only [fileAt, timeAt, hitem]
        rfl
      · have hisDir : ¬item.isDir = true := by simpa [isDirAt, hitem] using hdir
        simp only [fileAt, timeAt, hitem]
        show (if item.isDir = true then _ else _ : Change Unit) t = _
        rw [if_neg hisDir]
        rfl

/-- A file can be put at this place. -/
structure Writable (t : FileTree) (p : Path) (target : Path) : Prop where
  name : Path.stays (p.getLastD "") = false
  place : t.place p.dropLast (p.getLastD "") = .ok target
  file : t.isDirAt target = false

theorem Writable.ne_nil (h : t.Writable p target) : target ≠ [] := by
  obtain ⟨dir, -, -, -, -, rfl⟩ := place_eq_ok_iff.1 h.place
  simp

theorem Writable.writeFile (h : t.Writable p target) (data : Bytes) :
    writeFile p data t = .ok () (t.put target (fileAt data (t.timeAt target))) := by
  have hname : ¬Path.stays (p.getLastD "") = true := by rw [h.name]; exact Bool.false_ne_true
  have hfile : ¬t.isDirAt target = true := by rw [h.file]; exact Bool.false_ne_true
  rw [writeFile_eq, if_neg hname, h.place]
  exact if_neg hfile

/-- **Whether a file can be replaced does not depend on what is written.** -/
theorem writeFile_cases (t : FileTree) (p : Path) :
    (∃ f, ∀ data, FileTree.writeFile p data t = .error f t) ∨ ∃ target, t.Writable p target := by
  by_cases hname : Path.stays (p.getLastD "") = true
  · exact .inl ⟨.isDirectory, fun data => by rw [writeFile_eq, if_pos hname]⟩
  rcases hplace : t.place p.dropLast (p.getLastD "") with f | target
  · exact .inl ⟨f, fun data => by rw [writeFile_eq, if_neg hname, hplace]⟩
  by_cases hfile : t.isDirAt target = true
  · refine .inl ⟨.isDirectory, fun data => ?_⟩
    rw [writeFile_eq, if_neg hname, hplace]
    exact if_pos hfile
  · exact .inr ⟨target, ⟨by simpa using hname, hplace, by simpa using hfile⟩⟩

/-- **Where a file was put, it can be put again.** -/
theorem Writable.put (h : t.Writable p target) (hitem : item.isDir = false) :
    (t.put target item).Writable p target := by
  obtain ⟨dir, hfault, hwalk, hdir, hlong, htarget⟩ := place_eq_ok_iff.1 h.place
  refine ⟨h.name, place_eq_ok_iff.2 ⟨dir, hfault, ?_, ?_, hlong, htarget⟩, ?_⟩
  · exact walkFrom_put h.file hitem h.ne_nil hwalk
  · rwa [isDirAt_put h.file hitem h.ne_nil]
  · rw [isDirAt_put h.file hitem h.ne_nil, h.file]

/-- What was put at a place is found there. -/
theorem Writable.find (h : t.Writable p target) (hitem : item.isDir = false) :
    (t.put target item).find p = .ok item := by
  have hne : p ≠ [] := by
    rintro rfl
    exact absurd h.name (by decide)
  obtain ⟨dir, hfault, hwalk, hdir, hlong, htarget⟩ := place_eq_ok_iff.1 h.place
  have hsplit : p.dropLast ++ [p.getLastD ""] = p := by
    rw [List.getLastD_eq_getLast?, List.getLast?_eq_some_getLast hne]
    exact List.dropLast_concat_getLast hne
  have hput : (t.put target item).item? target = some item := item?_put_self h.ne_nil
  have hlast : (t.put target item).walkFrom dir [p.getLastD ""] = .ok target := by
    have hname : ¬Path.stays (p.getLastD "") = true := by rw [h.name]; exact Bool.false_ne_true
    unfold walkFrom
    rw [isDirAt_put h.file hitem h.ne_nil, hdir, if_neg (by simp), if_neg hname, if_neg hlong,
      htarget, hput]
    rfl
  have hwalks : (t.put target item).walk p = .ok target := by
    rw [hsplit] at hfault
    unfold walk
    rw [hfault]
    show walkFrom _ [] p = _
    rw [← hsplit, walkFrom_append, walkFrom_put h.file hitem h.ne_nil hwalk]
    exact hlast
  unfold FileTree.find
  rw [hwalks]
  show Except.bind (.ok target) _ = _
  simp only [Except.bind, hput]

/-! ### Directories -/

theorem isDir_iff : t.isDir p = true ↔
    ∃ dir, p.fault? = none ∧ t.walkFrom [] p = .ok dir ∧ t.isDirAt dir = true := by
  unfold isDir FileTree.find walk isDirAt
  rcases p.fault? with _ | f
  · rcases t.walkFrom [] p with f | dir
    · simp [bind, Except.bind, Except.toOption]
    · rcases hitem : t.item? dir with _ | item <;>
        simp [bind, Except.bind, Except.toOption, hitem]
  · simp [bind, Except.bind, Except.toOption]

/-- What is not empty at the end of a path, and what is. -/
theorem exists_withoutSlashes (p : Path) : ∃ slashes, p = withoutSlashes p ++ slashes := by
  refine ⟨(p.reverse.takeWhile (· == "")).reverse, ?_⟩
  unfold withoutSlashes
  rw [← List.reverse_append, List.takeWhile_append_dropWhile, List.reverse_reverse]

theorem makeDir_eq (p : Path) (t : FileTree) : makeDir p t =
    match p.fault? with
    | some f => .error f t
    | none =>
      if (withoutSlashes p).getLastD "." = "." then
        match t.walkFrom [] (withoutSlashes p).dropLast with
        | .error f => .error f t
        | .ok dir => .error (if t.isDirAt dir then .alreadyThere else .notDirectory) t
      else match t.place (withoutSlashes p).dropLast ((withoutSlashes p).getLastD ".") with
        | .error f => .error f t
        | .ok target =>
          if (t.item? target).isSome then .error .alreadyThere t
          else .ok () (t.put target .dir) := by
  unfold makeDir
  rcases p.fault? with _ | f
  · show (if (withoutSlashes p).getLastD "." = "." then _ else _ : Change Unit) t = _
    simp only
    split_ifs with hname
    · rcases t.walkFrom [] (withoutSlashes p).dropLast with f | dir
      · rfl
      · show (if t.isDirAt dir = true then _ else _ : Change Unit) t = _
        simp only
        split_ifs <;> rfl
    · rcases t.place (withoutSlashes p).dropLast ((withoutSlashes p).getLastD ".") with f | target
      · rfl
      · show (if (t.item? target).isSome = true then _ else _ : Change Unit) t = _
        simp only
        split_ifs <;> rfl
  · rfl

/-- No path is wrong in itself because something is missing. -/
theorem fault?_ne_notFound (p : Path) : p.fault? ≠ some .notFound := by
  unfold Path.fault?
  split_ifs <;> simp

theorem walkFrom_name (hname : Path.stays name = false) (h : t.walkFrom here [name] = .ok dir) :
    t.isDirAt here = true ∧ ¬Path.nameLimit < Text.size name ∧
      (t.item? (here ++ [name])).isSome = true := by
  unfold walkFrom at h
  rw [if_neg (c := Path.stays name = true) (by simp [hname])] at h
  split_ifs at h with hdir hlong hnone
  exact ⟨by simpa using hdir, hlong, by simpa [Option.isSome_iff_ne_none] using hnone⟩

/-- The last part of a path that is not empty. -/
theorem withoutSlashes_eq_append (hname : (withoutSlashes p).getLastD "." ≠ ".") :
    withoutSlashes p = (withoutSlashes p).dropLast ++ [(withoutSlashes p).getLastD "."] ∧
      Path.stays ((withoutSlashes p).getLastD ".") = false := by
  have hne : withoutSlashes p ≠ [] := by
    intro h
    rw [h] at hname
    exact hname rfl
  have hlast : (withoutSlashes p).getLastD "." = (withoutSlashes p).getLast hne := by
    rw [List.getLastD_eq_getLast?, List.getLast?_eq_some_getLast hne]
    rfl
  have hslash : (withoutSlashes p).getLast hne ≠ "" := by
    have hhead := List.head?_dropWhile_not (· == "") p.reverse
    have hget : (withoutSlashes p).getLast? = (p.reverse.dropWhile (· == "")).head? := by
      unfold withoutSlashes
      rw [List.getLast?_reverse]
    rw [← hget, List.getLast?_eq_some_getLast hne] at hhead
    simpa using hhead
  rw [hlast] at hname ⊢
  refine ⟨(List.dropLast_concat_getLast hne).symm, ?_⟩
  simp [Path.stays, hslash, hname]

/-- A directory that is there is not made again. -/
theorem makeDir_of_isDir (h : t.isDir p = true) :
    ∃ f, f ≠ .notFound ∧ makeDir p t = .error f t := by
  obtain ⟨dir, hfault, hwalk, -⟩ := isDir_iff.1 h
  obtain ⟨slashes, hp⟩ := exists_withoutSlashes p
  rw [hp] at hwalk
  obtain ⟨d, hparts, -⟩ := exists_walkFrom_of_append hwalk
  rw [makeDir_eq, hfault]
  simp only
  split_ifs with hname
  · obtain ⟨last, hsplit⟩ := List.dropLast_prefix (withoutSlashes p)
    rw [← hsplit] at hparts
    obtain ⟨d', hinit, -⟩ := exists_walkFrom_of_append hparts
    rw [hinit]
    refine ⟨_, ?_, rfl⟩
    split_ifs <;> exact nofun
  · obtain ⟨hsplit, hstays⟩ := withoutSlashes_eq_append hname
    rw [hsplit] at hparts
    obtain ⟨d', hinit, hlast⟩ := exists_walkFrom_of_append hparts
    obtain ⟨hdir, hlong, hitem⟩ := walkFrom_name hstays hlast
    rw [place_eq]
    rcases hfault' : Path.fault? _ with _ | f
    · rw [hinit]
      simp only [Except.bind, hdir, Bool.not_true, Bool.false_eq_true, if_false, if_neg hlong]
      exact ⟨.alreadyThere, nofun, if_pos hitem⟩
    · refine ⟨f, ?_, rfl⟩
      rintro rfl
      exact fault?_ne_notFound _ hfault'

theorem tryCatch_error {α : Type} {change : Change α} {f : Fault} {t' : FileTree}
    (h : change t = .error f t') (handler : Fault → Change α) :
    tryCatch change handler t = handler f t' := by
  show EStateM.tryCatch change handler t = _
  unfold EStateM.tryCatch
  rw [h]
  rfl

/-- **Making a directory that is there changes nothing.** -/
theorem makeDirs_of_isDir (h : t.isDir p = true) : makeDirs p t = .ok () t := by
  by_cases hp : p = []
  · subst hp
    rw [makeDirs]
    rfl
  obtain ⟨f, hf, hmake⟩ := makeDir_of_isDir h
  rw [makeDirs, dif_neg hp, tryCatch_error hmake, if_neg hf]
  show (if t.isDir p = true then _ else _ : Change Unit) t = _
  rw [if_pos h]
  rfl

/-- A path that is faulty wherever it may lead is not made. -/
theorem fault?_of_makeDirs {t' : FileTree} (h : makeDirs p t = .ok () t') : p.fault? = none := by
  rcases hfault : p.fault? with _ | f
  · rfl
  by_cases hp : p = []
  · subst hp
    exact nomatch hfault.symm.trans (by decide : Path.fault? [] = none)
  have hmake : makeDir p t = .error f t := by
    rw [makeDir_eq, hfault]
  have hne : f ≠ .notFound := by
    rintro rfl
    exact fault?_ne_notFound p hfault
  have hdir : ¬t.isDir p = true := by
    intro hdir
    obtain ⟨dir, hnone, -⟩ := isDir_iff.1 hdir
    exact nomatch hfault.symm.trans hnone
  rw [makeDirs, dif_neg hp, tryCatch_error hmake, if_neg hne] at h
  change (if t.isDir p = true then _ else _ : Change Unit) t = _ at h
  rw [if_neg hdir] at h
  exact nomatch h

end Folder.FileTree

end StorageAdapter
