import Mathlib.Logic.Relation
import StorageAdapter.Folder.Adapter
import StorageAdapter.Proofs.Utf8

/-! # Paths from clients

A path that a client sends is resolved below the directory of its host. Its parts stand between
slashes and at its ends (`HasPart`). A part that is empty or a dot leads nowhere, and the other ones
are its names (`names`). A path with a part `..` is refused, and any other one leads to its names
below the directory (`placeBelow_of_hasPart`, `placeBelow_of_not_hasPart`). Two paths have the same
names if and only if they differ in slashes and dots that lead nowhere (`names_eq_iff`), so these
make no difference. Paths on the card are refused alike, and kept as they are otherwise. Together
this is `client_paths_stay_below`. -/

namespace StorageAdapter

/-! ### Parts of a text -/

namespace Text

/-- A text is either a single part or a part, a slash and a text. -/
@[elab_as_elim]
theorem parts_induction {motive : List Char → Prop} (single : ∀ part, '/' ∉ part → motive part)
    (more : ∀ part rest, '/' ∉ part → motive rest → motive (part ++ '/' :: rest))
    (cs : List Char) : motive cs := by
  induction hn : cs.length using Nat.strongRecOn generalizing cs with
  | _ n ih =>
    by_cases h : '/' ∈ cs
    · obtain ⟨part, rest, rfl, hpart⟩ := List.eq_append_cons_of_mem h
      have hlt : rest.length < n := by
        simp only [List.length_append, List.length_cons] at hn
        omega
      exact more part rest hpart (ih _ hlt rest rfl)
    · exact single cs h

theorem splitAll_append_slash (u v : List Char) :
    splitAll '/' (u ++ '/' :: v) = splitAll '/' u ++ splitAll '/' v := by
  induction u using parts_induction with
  | single part h => rw [splitAll_append h, splitAll_of_notMem h, List.singleton_append]
  | more part rest h ih =>
    rw [List.append_assoc, List.cons_append, splitAll_append h, splitAll_append h, ih,
      List.cons_append]

end Text

namespace Folder

open StorageAdapter.Text

/-- A part of a path begins behind these characters. -/
def PartBegins (before : List Char) : Prop := before = [] ∨ ['/'] <:+ before

/-- A part of a path ends in front of these characters. -/
def PartEnds (after : List Char) : Prop := after = [] ∨ ['/'] <+: after

/-- The part stands in the path, between slashes or at an end. -/
def HasPart (part path : String) : Prop :=
  ∃ before after, path.toList = before ++ part.toList ++ after ∧
    PartBegins before ∧ PartEnds after

theorem PartBegins.append {before : List Char} (h : PartBegins before) (front : List Char) :
    PartBegins (front ++ '/' :: before) := by
  rcases h with rfl | ⟨u, rfl⟩
  · exact .inr ⟨front, rfl⟩
  · exact .inr ⟨front ++ '/' :: u, by simp⟩

theorem mem_splitAll_iff {part cs : List Char} : part ∈ splitAll '/' cs ↔
    '/' ∉ part ∧ ∃ before after, cs = before ++ part ++ after ∧
      PartBegins before ∧ PartEnds after := by
  constructor
  · intro hmem
    induction cs using parts_induction with
    | single p h =>
      rw [splitAll_of_notMem h, List.mem_singleton] at hmem
      exact ⟨hmem ▸ h, [], [], by simp [hmem], .inl rfl, .inl rfl⟩
    | more p rest h ih =>
      rw [splitAll_append h, List.mem_cons] at hmem
      rcases hmem with rfl | hmem
      · exact ⟨h, [], '/' :: rest, rfl, .inl rfl, .inr ⟨rest, rfl⟩⟩
      · obtain ⟨hpart, before, after, rfl, hbefore, hafter⟩ := ih hmem
        exact ⟨hpart, p ++ '/' :: before, after, by simp, hbefore.append p, hafter⟩
  · rintro ⟨hpart, before, after, rfl, hbefore, hafter⟩
    have hsingle := splitAll_of_notMem hpart
    rcases hbefore with rfl | ⟨u, rfl⟩ <;> rcases hafter with rfl | ⟨v, rfl⟩
    · simp [hsingle]
    · simp [splitAll_append hpart]
    · simp [splitAll_append_slash, hsingle]
    · simp [splitAll_append_slash, splitAll_append hpart]

/-! ### Names -/

/-- The parts of a path that lead further. -/
def names (cs : List Char) : Path :=
  ((splitAll '/' cs).map String.ofList).filter fun part => !Path.stays part

/-- What a directory may hold: neither empty nor dots, and without a slash. -/
structure IsName (part : String) : Prop where
  ne_empty : part ≠ ""
  ne_dot : part ≠ "."
  ne_dots : part ≠ ".."
  slash_notMem : '/' ∉ part.toList

theorem stays_iff {part : String} : Path.stays part ↔ part = "" ∨ part = "." := by
  simp [Path.stays]

@[simp] theorem names_append (u v : List Char) : names (u ++ '/' :: v) = names u ++ names v := by
  simp only [names, splitAll_append_slash, List.map_append, List.filter_append]

@[simp] theorem names_nil : names [] = [] := rfl

@[simp] theorem names_dot : names ['.'] = [] := rfl

@[simp] theorem names_slash (v : List Char) : names ('/' :: v) = names v := names_append [] v

@[simp] theorem names_dot_slash (v : List Char) : names ('.' :: '/' :: v) = names v :=
  names_append ['.'] v

theorem names_of_notMem {part : List Char} (h : '/' ∉ part) (hne : part ≠ [])
    (hdot : part ≠ ['.']) : names part = [String.ofList part] := by
  have hofDot : String.ofList part ≠ "." := fun h =>
    hdot (by simpa using congrArg String.toList h)
  have hstays : Path.stays (String.ofList part) = false := by simp [Path.stays, hne, hofDot]
  simp [names, splitAll_of_notMem h, hstays]

theorem mem_names_iff {part path : String} : part ∈ names path.toList ↔
    '/' ∉ part.toList ∧ HasPart part path ∧ part ≠ "" ∧ part ≠ "." := by
  have hsplit : part ∈ (splitAll '/' path.toList).map String.ofList ↔
      part.toList ∈ splitAll '/' path.toList := by
    rw [List.mem_map]
    constructor
    · rintro ⟨cs, hcs, rfl⟩
      rwa [String.toList_ofList]
    · exact fun h => ⟨part.toList, h, String.ofList_toList⟩
  unfold names
  rw [List.mem_filter, hsplit, mem_splitAll_iff, Bool.not_eq_true', ← Bool.not_eq_true, stays_iff,
    not_or, and_assoc]
  rfl

theorem dots_mem_names_iff {path : String} : ".." ∈ names path.toList ↔ HasPart ".." path := by
  rw [mem_names_iff]
  exact ⟨fun h => h.2.1, fun h => ⟨by decide, h, by decide, by decide⟩⟩

instance (path : String) : Decidable (HasPart ".." path) := decidable_of_iff _ dots_mem_names_iff

/-- The slashes at the beginning of a path lead nowhere. -/
theorem names_dropWhile (cs : List Char) : names (cs.dropWhile (· == '/')) = names cs := by
  induction cs with
  | nil => rfl
  | cons c cs ih =>
    by_cases hc : c = '/'
    · subst hc
      rw [List.dropWhile_cons_of_pos (by decide), ih]
      exact (names_append [] cs).symm
    · rw [List.dropWhile_cons_of_neg (by simpa using hc)]

theorem filter_partsOf (path : String) :
    ((partsOf path).filter fun part => !Path.stays part) = names path.toList :=
  names_dropWhile path.toList

theorem dots_mem_partsOf_iff {path : String} : ".." ∈ partsOf path ↔ HasPart ".." path := by
  rw [← dots_mem_names_iff, ← filter_partsOf, List.mem_filter]
  exact ⟨fun h => ⟨h, rfl⟩, fun h => h.1⟩

/-! ### Slashes and dots that lead nowhere -/

/-- What is left of a path when a slash or a dot is dropped that leads nowhere: a slash at an end of
the path or beside another slash, or a dot that is a part. -/
inductive Redundant : List Char → List Char → Prop
  | slash {u v : List Char} (h : PartBegins u ∨ PartEnds v) : Redundant (u ++ '/' :: v) (u ++ v)
  | dot {u v : List Char} (hu : PartBegins u) (hv : PartEnds v) :
    Redundant (u ++ '.' :: v) (u ++ v)

/-- The paths differ in slashes and dots that lead nowhere, and in nothing else. -/
def SamePlace (path other : String) : Prop :=
  Relation.EqvGen Redundant path.toList other.toList

theorem Redundant.names_eq {cs ds : List Char} (h : Redundant cs ds) : names cs = names ds := by
  cases h with
  | slash h => rcases h with (rfl | ⟨u, rfl⟩) | (rfl | ⟨v, rfl⟩) <;> simp
  | dot hu hv => rcases hu with rfl | ⟨u, rfl⟩ <;> rcases hv with rfl | ⟨v, rfl⟩ <;> simp

/-- The same can be dropped from a path that goes further. -/
theorem Redundant.below {cs ds : List Char} (h : Redundant cs ds) (part : List Char) :
    Redundant (part ++ '/' :: cs) (part ++ '/' :: ds) := by
  have hassoc (u v : List Char) : part ++ '/' :: (u ++ v) = (part ++ '/' :: u) ++ v := by simp
  cases h with
  | slash h =>
    rw [hassoc, hassoc]
    exact .slash (h.imp_left (·.append part))
  | dot hu hv =>
    rw [hassoc, hassoc]
    exact .dot (hu.append part) hv

theorem names_eq_of_eqvGen {cs ds : List Char} (h : Relation.EqvGen Redundant cs ds) :
    names cs = names ds := by
  induction h with
  | rel cs ds h => exact h.names_eq
  | refl cs => rfl
  | symm cs ds _ ih => exact ih.symm
  | trans cs ds es _ _ ih ih' => exact ih.trans ih'

theorem eqvGen_below {cs ds : List Char} (h : Relation.EqvGen Redundant cs ds) (part : List Char) :
    Relation.EqvGen Redundant (part ++ '/' :: cs) (part ++ '/' :: ds) := by
  induction h with
  | rel cs ds h => exact .rel _ _ (h.below part)
  | refl cs => exact .refl _
  | symm cs ds _ ih => exact ih.symm
  | trans cs ds es _ _ ih ih' => exact ih.trans _ _ _ ih'

theorem toList_text_singleton (part : List Char) :
    (Path.text [String.ofList part]).toList = part := by
  simp [Path.text]

theorem toList_text_cons (part : List Char) {p : Path} (hp : p ≠ []) :
    (Path.text (String.ofList part :: p)).toList = part ++ '/' :: (Path.text p).toList := by
  have hne : p.map String.toList ≠ [] := by simpa using hp
  simp [Path.text, String.toList_intercalate, List.intercalate_cons_of_ne_nil hne]

/-- **A path leads where its names lead.** -/
theorem eqvGen_names (cs : List Char) :
    Relation.EqvGen Redundant cs (Path.text (names cs)).toList := by
  induction cs using parts_induction with
  | single part h =>
    by_cases hne : part = []
    · subst hne
      exact .refl _
    by_cases hdot : part = ['.']
    · subst hdot
      exact .rel _ _ (Redundant.dot (u := []) (v := []) (.inl rfl) (.inl rfl))
    rw [names_of_notMem h hne hdot, toList_text_singleton]
    exact .refl _
  | more part rest h ih =>
    have hslash (cs : List Char) : Relation.EqvGen Redundant ('/' :: cs) cs :=
      .rel _ _ (Redundant.slash (u := []) (.inl (.inl rfl)))
    refine (eqvGen_below ih part).trans _ _ _ ?_
    rw [names_append]
    generalize names rest = p
    by_cases hne : part = []
    · subst hne
      exact hslash _
    by_cases hdot : part = ['.']
    · subst hdot
      have hrest := Redundant.dot (u := []) (v := '/' :: (Path.text p).toList) (.inl rfl)
        (.inr ⟨_, rfl⟩)
      exact (Relation.EqvGen.rel _ _ hrest).trans _ _ _ (hslash _)
    rw [names_of_notMem h hne hdot, List.singleton_append]
    by_cases hp : p = []
    · subst hp
      -- the slash behind the last name is the only one left over
      have hlast := Redundant.slash (u := part) (v := []) (.inr (.inl rfl))
      rw [List.append_nil] at hlast
      rw [toList_text_singleton]
      exact .rel _ _ hlast
    · rw [toList_text_cons part hp]
      exact .refl _

/-- **Paths have the same names** if and only if they differ in slashes and dots that lead
nowhere. -/
theorem names_eq_iff {path other : String} :
    names path.toList = names other.toList ↔ SamePlace path other := by
  refine ⟨fun h => ?_, names_eq_of_eqvGen⟩
  have hpath := eqvGen_names path.toList
  rw [h] at hpath
  exact hpath.trans _ _ _ (eqvGen_names other.toList).symm

instance (path other : String) : Decidable (SamePlace path other) :=
  decidable_of_iff _ names_eq_iff

/-! ### Places below a directory -/

theorem placeBelow_eq (root : Path) (path : String) : placeBelow root path =
    if ".." ∈ names path.toList then .error (invalidPath path)
    else .ok (root ++ names path.toList) := by
  unfold placeBelow
  rw [filter_partsOf]

/-- Without a part `..`, what leads further are names. -/
theorem isName_of_mem_names {path part : String} (h : ¬HasPart ".." path)
    (hpart : part ∈ names path.toList) : IsName part := by
  have hne : part ≠ ".." := by
    rintro rfl
    exact h (dots_mem_names_iff.1 hpart)
  obtain ⟨hslash, -, hempty, hdot⟩ := mem_names_iff.1 hpart
  exact ⟨hempty, hdot, hne, hslash⟩

theorem placeBelow_of_hasPart {path : String} (h : HasPart ".." path) (root : Path) :
    placeBelow root path = .error (invalidPath path) := by
  rw [placeBelow_eq, if_pos (dots_mem_names_iff.2 h)]

theorem placeBelow_of_not_hasPart {path : String} (h : ¬HasPart ".." path) (root : Path) :
    placeBelow root path = .ok (root ++ names path.toList) := by
  rw [placeBelow_eq, if_neg (mt dots_mem_names_iff.1 h)]

theorem placeOnCard_of_hasPart {path : String} (h : HasPart ".." path) (root : Path) :
    placeOnCard root path = .error (invalidPath path) := by
  unfold placeOnCard
  rw [if_pos (dots_mem_partsOf_iff.2 h)]

theorem placeOnCard_of_not_hasPart {path : String} (h : ¬HasPart ".." path) (root : Path) :
    placeOnCard root path = .ok (root ++ partsOf path) := by
  unfold placeOnCard
  rw [if_neg (mt dots_mem_partsOf_iff.1 h)]

theorem slash_notMem_of_mem_partsOf {path part : String} (h : part ∈ partsOf path) :
    '/' ∉ part.toList := by
  obtain ⟨cs, hcs, rfl⟩ := List.mem_map.1 h
  rw [String.toList_ofList]
  exact (mem_splitAll_iff.1 hcs).1

/-- The parts of a path are told as the path, without the slashes at its beginning. -/
theorem text_partsOf (path : String) :
    Path.text (partsOf path) = String.ofList (path.toList.dropWhile (· == '/')) := by
  refine String.toList_injective ?_
  have hmap (l : List (List Char)) : (l.map String.ofList).map String.toList = l := by simp
  unfold Path.text partsOf
  rw [String.toList_intercalate, hmap, String.toList_ofList, String.toList_ofList]
  exact intercalate_splitAll '/' _

/-- **A path from a client never leads out of its directory.** A path on a host or on the card is
refused if and only if it has a part `..`. If not, it leads from the directory of its host to names
that are neither empty nor dots and hold no slash, and these are the path apart from slashes and
dots that lead nowhere. On the card it leads from the directory of the card to what it holds between
its slashes, which is never `..`.

Paths on a host that differ in slashes and dots that lead nowhere are both refused or lead to the
same place, and no other paths lead there. -/
theorem client_paths_stay_below (root : Path) (path : String) :
    (HasPart ".." path →
      placeBelow root path = .error (invalidPath path) ∧
      placeOnCard root path = .error (invalidPath path)) ∧
    (¬HasPart ".." path →
      (∃ below, placeBelow root path = .ok (root ++ below) ∧ (∀ name ∈ below, IsName name) ∧
        SamePlace path (Path.text below)) ∧
      ∃ below, placeOnCard root path = .ok (root ++ below) ∧
        (∀ part ∈ below, part ≠ ".." ∧ '/' ∉ part.toList) ∧
        Path.text below = String.ofList (path.toList.dropWhile (· == '/'))) ∧
    ∀ other,
      (SamePlace path other →
        (placeBelow root path).toOption = (placeBelow root other).toOption) ∧
      ∀ place, placeBelow root path = .ok place → placeBelow root other = .ok place →
        SamePlace path other := by
  refine ⟨fun h => ?refused, fun h => ⟨?host, ?card⟩, fun other => ⟨fun h => ?same, ?only⟩⟩
  case refused => exact ⟨placeBelow_of_hasPart h root, placeOnCard_of_hasPart h root⟩
  case host =>
    exact ⟨names path.toList, placeBelow_of_not_hasPart h root, fun _ => isName_of_mem_names h,
      eqvGen_names path.toList⟩
  case card =>
    refine ⟨partsOf path, placeOnCard_of_not_hasPart h root, fun part hpart => ⟨?_, ?_⟩,
      text_partsOf path⟩
    · rintro rfl
      exact h (dots_mem_partsOf_iff.1 hpart)
    · exact slash_notMem_of_mem_partsOf hpart
  case same =>
    rw [placeBelow_eq, placeBelow_eq, names_eq_iff.2 h]
    split <;> rfl
  case only =>
    intro place hpath hother
    rw [placeBelow_eq] at hpath hother
    split at hpath
    · cases hpath
    split at hother
    · cases hother
    have happend : root ++ names path.toList = root ++ names other.toList :=
      (Except.ok.inj hpath).trans (Except.ok.inj hother).symm
    exact names_eq_iff.1 (List.append_cancel_left happend)

/-- A game that is named in two ways, and a path that climbs. -/
theorem client_paths_to_a_game :
    let sd : Path := ["data", "sd"]
    placeBelow sd "/games/../../x" = .error (invalidPath "/games/../../x") ∧
      (∃ below, placeBelow sd "/games//./a.d64" = .ok (sd ++ below) ∧ ∀ name ∈ below, IsName name) ∧
      (placeBelow sd "/games//./a.d64").toOption = (placeBelow sd "games/a.d64/").toOption := by
  intro sd
  obtain ⟨hclimb, -, -⟩ := client_paths_stay_below sd "/games/../../x"
  obtain ⟨-, hplace, hsame⟩ := client_paths_stay_below sd "/games//./a.d64"
  obtain ⟨⟨below, hbelow, hnames, -⟩, -⟩ := hplace (by decide +kernel)
  have hother := (hsame "games/a.d64/").1 (by decide +kernel)
  exact ⟨(hclimb (by decide +kernel)).1, ⟨below, hbelow, hnames⟩, hother⟩

end Folder

end StorageAdapter
