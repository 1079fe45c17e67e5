import Georef.Proofs.Cache.Refinement
import Georef.Proofs.GridFile.Ancestry
import Georef.Proofs.Outcome
import Georef.Proofs.SameBytes
import Georef.Service.State

/-!
# The grid files of a service

A service opens its grid files through a cache, which may be too small for all of them, so that a
file is dropped and read again, and a path that is listed twice may be answered from the cache. What
is kept under a path is what the path holds, so the files are those that opening each path by itself
would give.

The cache compares paths by their components. A slash behind the name of a file makes no difference
to it, although such a path cannot be opened; so paths that are equal to the cache have to open
alike.

The module introduces:

* `RecentList.Holds P list` — all that the list keeps satisfies `P`; `RecentList.Holds.getOrLoad`
  keeps it.
* `GridCache.Faithful files paths grids` — the cache keeps what the paths hold.
* `Service.OpenAlike` — paths that are equal by components open alike.

`Service.ofSettings_opens_each` says which files a service has, and
`Service.exists_path_answered_by_other` that paths which do not open alike may be mistaken.
-/

/-! ## Steps for each item -/

namespace Except

variable {ε α β : Type}

/-- Items of which each step succeeds give the results in order. -/
theorem mapM_eq_ok_of_forall₂ {step : α → Except ε β} {items : List α} {results : List β}
    (h : List.Forall₂ (fun item result => step item = .ok result) items results) :
    items.mapM step = .ok results := by
  induction h with
  | nil => rfl
  | cons hitem _ ih => rw [List.mapM_cons, hitem, ok_bind, ih, ok_bind, pure_eq_ok]

/-- The first step that fails decides. -/
theorem mapM_eq_error_of_first {step : α → Except ε β} {earlier later : List α} {item : α}
    {fault : ε} (hearlier : ∀ other ∈ earlier, ∃ result, step other = .ok result)
    (hitem : step item = .error fault) : (earlier ++ item :: later).mapM step = .error fault := by
  induction earlier with
  | nil => rw [List.nil_append, List.mapM_cons, hitem, error_bind]
  | cons first rest ih =>
    obtain ⟨⟨result, hfirst⟩, hrest⟩ := List.forall_mem_cons.1 hearlier
    rw [List.cons_append, List.mapM_cons, hfirst, ok_bind, ih hrest, error_bind]

end Except

namespace Georef

/-! ## What a list keeps -/

namespace RecentList

variable {κ ν ε : Type} {P : κ → ν → Prop} {list : RecentList κ ν}

/-- `Holds P list`: every key of the list is kept with a value that satisfies `P`. -/
def Holds (P : κ → ν → Prop) (list : RecentList κ ν) : Prop :=
  ∀ entry ∈ list.entries, P entry.1 entry.2

theorem Holds.withRoom (h : list.Holds P) : list.withRoom.Holds P := by
  intro entry hmem
  exact h entry (List.mem_of_mem_take hmem)

variable [DecidableEq κ]

theorem Holds.of_find? (h : list.Holds P) {key : κ} {value : ν}
    (hfind : list.find? key = some value) : P key value := by
  obtain ⟨entry, hentry, rfl⟩ := Option.map_eq_some_iff.1 hfind
  have hkey : entry.1 = key := by simpa using List.find?_some hentry
  exact hkey ▸ h entry (List.mem_of_find?_eq_some hentry)

theorem Holds.use (h : list.Holds P) {key : κ} {value : ν} (hvalue : P key value) :
    (list.use key value).Holds P := by
  intro entry hmem
  rcases List.mem_cons.1 hmem with rfl | hold
  · exact hvalue
  · exact h entry (List.mem_of_mem_filter hold)

/-- A list that keeps just what can be loaded answers with it, whether it has to be loaded or not,
and goes on keeping it. -/
theorem Holds.getOrLoad (h : list.Holds P) {key : κ} {load : Unit → Except ε ν}
    (hload : ∀ value, P key value ↔ load () = .ok value) :
    (list.getOrLoad key load).1.map Fetched.value = load () ∧
      (list.getOrLoad key load).2.Holds P := by
  rw [RecentList.getOrLoad]
  cases hfind : list.find? key with
  | some value =>
    have hvalue := h.of_find? hfind
    exact ⟨((hload value).1 hvalue).symm, h.use hvalue⟩
  | none =>
    cases houtcome : load () with
    | ok value => exact ⟨rfl, h.withRoom.use ((hload value).2 houtcome)⟩
    | error fault => exact ⟨rfl, h.withRoom⟩

theorem find?_use (list : RecentList κ ν) (key : κ) (value : ν) :
    (list.use key value).find? key = some value := by
  simp [use, find?]

/-- What a list has answered with, it keeps. -/
theorem find?_getOrLoad {key : κ} {load : Unit → Except ε ν} {fetched : Fetched ν}
    (h : (list.getOrLoad key load).1 = .ok fetched) :
    (list.getOrLoad key load).2.find? key = some fetched.value := by
  rw [getOrLoad] at h ⊢
  cases hfind : list.find? key with
  | some value =>
    rw [hfind] at h
    obtain rfl := Except.ok.inj h
    exact list.find?_use key value
  | none =>
    rw [hfind] at h
    cases houtcome : load () with
    | ok value =>
      rw [houtcome] at h
      obtain rfl := Except.ok.inj h
      exact list.withRoom.find?_use key value
    | error fault =>
      rw [houtcome] at h
      cases h

end RecentList

/-- A key that was answered is answered alike the next time, and nothing is loaded. -/
theorem Cache.Sound.getOrLoad_again {κ ν ε : Type} [DecidableEq κ] {cache : Cache κ ν}
    (h : cache.Sound) {key : κ} {load : Unit → Except ε ν} {fetched : Fetched ν}
    (hfetched : (cache.getOrLoad key load).1 = .ok fetched) (other : Unit → Except ε ν) :
    ((cache.getOrLoad key load).2.getOrLoad key other).1 =
      .ok { value := fetched.value, loaded := false } := by
  obtain ⟨hnext, hplain⟩ := h.getOrLoad key load
  obtain ⟨-, hagain⟩ := hnext.getOrLoad key other
  have hanswer : (cache.toRecentList.getOrLoad key load).1 = .ok fetched :=
    (congrArg Prod.fst hplain).symm.trans hfetched
  have hleft : (cache.getOrLoad key load).2.toRecentList =
      (cache.toRecentList.getOrLoad key load).2 := congrArg Prod.snd hplain
  rw [hleft, RecentList.getOrLoad, RecentList.find?_getOrLoad hanswer] at hagain
  exact congrArg Prod.fst hagain

/-! ## What a cache of grid files keeps -/

variable {α : Type} [Scalar α] {files : Files}

/-- `OpenAlike α files access paths`: paths that are equal by components open alike. -/
def Service.OpenAlike (α : Type) [Scalar α] (files : Files) (access : Access)
    (paths : List String) : Prop :=
  ∀ path ∈ paths, ∀ other ∈ paths, PathName.components path = PathName.components other →
    (GridFile.ofPath files access path : Except Error (GridFile α)) =
      GridFile.ofPath files access other

namespace GridCache

variable {paths : List String} {grids : GridCache α}

/-- `Faithful files paths grids`: between calls, the cache keeps what the paths hold. -/
structure Faithful (files : Files) (paths : List String) (grids : GridCache α) : Prop where
  sound : grids.cache.Sound
  holds : grids.cache.toRecentList.Holds fun steps file =>
    ∀ path ∈ paths, PathName.components path = steps →
      GridFile.ofPath files (Access.ofFlag grids.mapped) path = .ok file

theorem faithful_ofCapacity (files : Files) (paths : List String) (capacity : Nat) (mapped : Bool) :
    (GridCache.ofCapacity capacity mapped : GridCache α).Faithful files paths where
  sound := Cache.Sound.ofCapacity capacity
  holds _ hmem := nomatch hmem

/-- The file at a path is what the path holds, whether it is kept or not. -/
theorem Faithful.getOrOpen (h : grids.Faithful files paths)
    (halike : Service.OpenAlike α files (Access.ofFlag grids.mapped) paths) {path : String}
    (hpath : path ∈ paths) :
    (grids.getOrOpen files path).1 = GridFile.ofPath files (Access.ofFlag grids.mapped) path ∧
      (grids.getOrOpen files path).2.Faithful files paths ∧
      (grids.getOrOpen files path).2.mapped = grids.mapped := by
  let load (_ : Unit) : Except Error (GridFile α) :=
    GridFile.ofPath files (Access.ofFlag grids.mapped) path
  -- what the path holds is what any other path of its components holds
  have hload : ∀ file, (∀ other ∈ paths, PathName.components other = PathName.components path →
      GridFile.ofPath files (Access.ofFlag grids.mapped) other = .ok file) ↔
        load () = .ok file := by
    refine fun file => ⟨fun hall => hall path hpath rfl, fun hfile other hother hsteps => ?_⟩
    rw [halike other hother path hpath hsteps]
    exact hfile
  obtain ⟨hsound, hplain⟩ := h.sound.getOrLoad (PathName.components path) load
  obtain ⟨hanswer, hholds⟩ := h.holds.getOrLoad hload
  rw [← hplain] at hanswer hholds
  exact ⟨hanswer, ⟨hsound, hholds⟩, rfl⟩

/-- A path is answered with the file of an earlier one of the same components, whatever it holds
itself. -/
theorem getOrOpen_of_components_eq {path other : String} {file : GridFile α}
    (hsound : grids.cache.Sound) (hpath : (grids.getOrOpen files path).1 = .ok file)
    (hsteps : PathName.components other = PathName.components path) :
    ((grids.getOrOpen files path).2.getOrOpen files other).1 = .ok file := by
  let load (path : String) (_ : Unit) : Except Error (GridFile α) :=
    GridFile.ofPath files (Access.ofFlag grids.mapped) path
  have hanswer (grids : GridCache α) (path : String) : (grids.getOrOpen files path).1 =
      (grids.cache.getOrLoad (PathName.components path) fun _ =>
        GridFile.ofPath files (Access.ofFlag grids.mapped) path).1.map Fetched.value := rfl
  rw [hanswer] at hpath
  obtain ⟨fetched, hfetched, -⟩ := Except.map_eq_ok_iff.1 hpath
  have hagain := hsound.getOrLoad_again hfetched (load other)
  rw [hfetched] at hpath
  have hnext : (grids.getOrOpen files path).2.cache =
      (grids.cache.getOrLoad (PathName.components path) (load path)).2 := rfl
  rw [hanswer, hnext, hsteps]
  exact (congrArg (Except.map Fetched.value) hagain).trans hpath

end GridCache

/-- A file that is not compressed is read as its bytes in memory. -/
theorem GridFile.ofPath_eq {path name : String} {data : Bytes} (access : Access)
    (hfile : files path = .ok data) (hname : PathName.displayName path = name)
    (hplain : Resource.namesCompressed path = false) :
    (GridFile.ofPath files access path : Except Error (GridFile α)) =
      GridFile.ofResource (.memory name data) := by
  rw [GridFile.ofPath, Resource.ofPath, hplain, if_neg Bool.false_ne_true, hname, hfile]
  exact (Resource.file_read_eq_memory α name data access .preserve).1

/-! ## The files of a service -/

namespace Service

/-- Files that are opened through a cache are those that each path holds. -/
theorem openGrids_eq_mapM {paths rest : List String} {grids : GridCache α}
    (h : grids.Faithful files paths)
    (halike : OpenAlike α files (Access.ofFlag grids.mapped) paths)
    (hrest : ∀ path ∈ rest, path ∈ paths) :
    openGrids files grids rest =
      rest.mapM fun path => GridFile.ofPath files (Access.ofFlag grids.mapped) path := by
  induction rest generalizing grids with
  | nil => rfl
  | cons path rest ih =>
    obtain ⟨hpath, hrest⟩ := List.forall_mem_cons.1 hrest
    obtain ⟨hanswer, hfaithful, hmapped⟩ := h.getOrOpen halike hpath
    rcases hopen : grids.getOrOpen files path with ⟨outcome, next⟩
    rw [hopen] at hanswer hfaithful hmapped
    rw [openGrids, hopen, List.mapM_cons, ← hanswer]
    cases outcome with
    | error fault => rfl
    | ok file =>
      have hothers := ih hfaithful (hmapped ▸ halike) hrest
      rw [hmapped] at hothers
      simp only [hothers]
      rfl

/-- The service of settings: the registry, and each grid file as its path holds it. -/
theorem ofSettings_eq {settings : Settings}
    (halike : OpenAlike α files (Access.ofFlag settings.mapped) settings.grids) :
    (ofSettings files settings : Except Error (Service α)) = do
      let registry ← openRegistry files settings.catalog
      let grids ← settings.grids.mapM fun path =>
        GridFile.ofPath files (Access.ofFlag settings.mapped) path
      return {
        registry
        shift := if settings.grids = [] then none else some { files := grids }
        terminator := settings.terminator } := by
  have hgrids := openGrids_eq_mapM
    (GridCache.faithful_ofCapacity files settings.grids settings.cacheCapacity settings.mapped)
    halike fun _ hmem => hmem
  rw [ofSettings]
  cases openRegistry files settings.catalog with
  | error fault => rfl
  | ok registry =>
    simp only [Except.ok_bind]
    cases hlist : settings.grids with
    | nil => rfl
    | cons path rest =>
      rw [← hlist, hgrids]
      simp [hlist]
      rfl

/-- A path that is equal to the one in front of it is not opened. -/
theorem openGrids_of_components_eq {grids : GridCache α} (hsound : grids.cache.Sound)
    {path other : String} {file : GridFile α} (hpath : (grids.getOrOpen files path).1 = .ok file)
    (hsteps : PathName.components other = PathName.components path) :
    openGrids files grids [path, other] = .ok [file, file] := by
  have hother := GridCache.getOrOpen_of_components_eq hsound hpath hsteps
  rcases hopened : grids.getOrOpen files path with ⟨outcome, next⟩
  rw [hopened] at hpath hother
  obtain rfl : outcome = .ok file := hpath
  rcases hkept : next.getOrOpen files other with ⟨outcome, last⟩
  rw [hkept] at hother
  obtain rfl : outcome = .ok file := hother
  simp only [openGrids, hopened, hkept, Except.map]

/-- Names of files open alike if the files are found alike. -/
theorem openAlike_of_files {access : Access} {paths : List String}
    (hnames : ∀ path ∈ paths, (PathName.fileName? path).isSome)
    (hfiles : ∀ path ∈ paths, ∀ other ∈ paths,
      PathName.components path = PathName.components other → files path = files other) :
    OpenAlike α files access paths := by
  intro path hpath other hother hsteps
  have hname : PathName.fileName? path = PathName.fileName? other := by
    rw [PathName.fileName?, hsteps, PathName.fileName?]
  have hdisplay : PathName.displayName path = PathName.displayName other := by
    obtain ⟨name, hsome⟩ := Option.isSome_iff_exists.1 (hnames other hother)
    rw [PathName.displayName, PathName.displayName, hname, hsome]
    rfl
  have hcompressed : Resource.namesCompressed path = Resource.namesCompressed other := by
    rw [Resource.namesCompressed, Resource.namesCompressed, PathName.extension?, hname,
      PathName.extension?]
  rw [GridFile.ofPath, GridFile.ofPath, Resource.ofPath, Resource.ofPath, hdisplay, hcompressed,
    hfiles path hpath other hother hsteps]

/-- If the catalog can be read and paths that are equal by components open alike, a service has one
grid file for each path of its settings, in their order, and each is the file at its path. If there
is a path that cannot be opened, setting up the service fails as opening the first one of them does.
How many files the cache has room for makes no difference. -/
theorem ofSettings_opens_each {settings : Settings} {registry : Crs.Registry}
    (hregistry : openRegistry files settings.catalog = .ok registry)
    (halike : OpenAlike α files (Access.ofFlag settings.mapped) settings.grids) :
    (∀ grids : List (GridFile α),
      List.Forall₂ (fun path file =>
        GridFile.ofPath files (Access.ofFlag settings.mapped) path = .ok file)
        settings.grids grids →
      ofSettings files settings = .ok {
        registry
        shift := if settings.grids = [] then none else some { files := grids }
        terminator := settings.terminator }) ∧
      (∀ earlier path later fault, settings.grids = earlier ++ path :: later →
        (∀ other ∈ earlier, ∃ file : GridFile α,
          GridFile.ofPath files (Access.ofFlag settings.mapped) other = .ok file) →
        (GridFile.ofPath files (Access.ofFlag settings.mapped) path :
          Except Error (GridFile α)) = .error fault →
        (ofSettings files settings : Except Error (Service α)) = .error fault) ∧
      ∀ capacity, (ofSettings files { settings with cacheCapacity := capacity } :
        Except Error (Service α)) = ofSettings files settings := by
  have hservice := ofSettings_eq halike
  rw [hregistry, Except.ok_bind] at hservice
  refine ⟨fun grids hgrids => ?_, fun earlier path later fault hsplit hearlier hfault => ?_,
    fun capacity => ?_⟩
  · rw [hservice, Except.mapM_eq_ok_of_forall₂ hgrids]
    rfl
  · rw [hservice, hsplit, Except.mapM_eq_error_of_first hearlier hfault, Except.error_bind]
  · have hother : (ofSettings files { settings with cacheCapacity := capacity } :
        Except Error (Service α)) = _ := ofSettings_eq halike
    rw [hservice, hother]
    simp only [hregistry, Except.ok_bind]

/-- With room for one file, a path that is listed again behind another one is read again. -/
theorem ofSettings_opens_each_repeated :
    ∃ (files : Files) (first second : GridFile Float), first ≠ second ∧
      ∀ capacity, ofSettings files
        { grids := ["a/pair", "b/pair", "a//pair"], cacheCapacity := capacity } = .ok {
          registry := .builtin
          shift := some { files := [first, second, first] }
          terminator := .preserve } := by
  let files : Files := fun path =>
    if (PathName.components path).head? = some (.name "a") then
      .ok ((GridFile.pairFile "NONE" "A").encode .big).toArray
    else .ok ((GridFile.pairFile "NONE" "NONE").encode .big).toArray
  let settings : Settings := { grids := ["a/pair", "b/pair", "a//pair"], cacheCapacity := 1 }
  let first : GridFile Float := (GridFile.pairFile "NONE" "A").loaded "pair" .big .minutes
  let second : GridFile Float := (GridFile.pairFile "NONE" "NONE").loaded "pair" .big .minutes
  have hchild : GridFile.ofResource
      (.memory "pair" ((GridFile.pairFile "NONE" "A").encode .big).toArray) = .ok first :=
    GridFile.ofResource_pairFile (by decide) (by decide) (by decide) (by decide +kernel)
  have hroots : GridFile.ofResource
      (.memory "pair" ((GridFile.pairFile "NONE" "NONE").encode .big).toArray) = .ok second :=
    GridFile.ofResource_pairFile (by decide) (by decide) (by decide) (by decide +kernel)
  have hgrids : List.Forall₂ (fun path file => GridFile.ofPath files .mapped path = .ok file)
      settings.grids [first, second, first] := by
    refine .cons ?_ (.cons ?_ (.cons ?_ .nil))
    · exact (GridFile.ofPath_eq .mapped (if_pos (by decide +kernel)) (by decide +kernel)
        (by decide +kernel)).trans hchild
    · exact (GridFile.ofPath_eq .mapped (if_neg (by decide +kernel)) (by decide +kernel)
        (by decide +kernel)).trans hroots
    · exact (GridFile.ofPath_eq .mapped (if_pos (by decide +kernel)) (by decide +kernel)
        (by decide +kernel)).trans hchild
  have halike : OpenAlike Float files .mapped settings.grids :=
    openAlike_of_files (by decide +kernel) fun path _ other _ hsteps => by simp only [files, hsteps]
  obtain ⟨hservice, -, hcapacity⟩ := ofSettings_opens_each rfl halike
  refine ⟨files, first, second, ?_, fun capacity => ?_⟩
  · intro hsame
    have hcount : first.roots.length ≠ second.roots.length := by decide +kernel
    exact hcount (congrArg (fun file => file.roots.length) hsame)
  · exact (hcapacity capacity).trans (hservice _ hgrids)

/-- Behind the path of a file, the same path with a slash at its end is answered from the cache,
though it cannot be opened. -/
theorem exists_path_answered_by_other :
    ∃ (files : Files) (file : GridFile Float),
      GridFile.ofPath files .mapped "pair" = .ok file ∧
        (GridFile.ofPath files .mapped "pair/" : Except Error (GridFile Float)) =
          .error (.io (.denied "not a directory")) ∧
        ofSettings files { grids := ["pair", "pair/"] } = .ok {
          registry := .builtin
          shift := some { files := [file, file] }
          terminator := .preserve } := by
  let files : Files := fun path =>
    if path = "pair" then .ok ((GridFile.pairFile "NONE" "A").encode .big).toArray
    else .error (.denied "not a directory")
  let file : GridFile Float := (GridFile.pairFile "NONE" "A").loaded "pair" .big .minutes
  let grids : GridCache Float := .ofCapacity 8 true
  have hopen : GridFile.ofPath files .mapped "pair" = .ok file :=
    (GridFile.ofPath_eq .mapped (if_pos rfl) (by decide +kernel) (by decide +kernel)).trans
      (GridFile.ofResource_pairFile (by decide) (by decide) (by decide) (by decide +kernel))
  refine ⟨files, file, hopen, ?_, ?_⟩
  · have hmissing : files "pair/" = .error (.denied "not a directory") := if_neg (by decide)
    rw [GridFile.ofPath, Resource.ofPath, if_neg (by decide +kernel), hmissing]
    rfl
  -- the path alone opens alike, so its file is kept
  have halike : OpenAlike Float files .mapped ["pair"] :=
    openAlike_of_files (by decide +kernel) (by simp)
  obtain ⟨hfirst, -, -⟩ := (GridCache.faithful_ofCapacity files ["pair"] 8 true).getOrOpen halike
    (List.mem_singleton_self "pair")
  have hfirst : (grids.getOrOpen files "pair").1 = .ok file := hfirst.trans hopen
  have hgrids : openGrids files grids ["pair", "pair/"] = .ok [file, file] :=
    openGrids_of_components_eq (Cache.Sound.ofCapacity 8) hfirst (by decide +kernel)
  rw [ofSettings, openRegistry, Except.ok_bind, if_neg (by decide), hgrids, Except.ok_bind]
  rfl

end Service

end Georef
