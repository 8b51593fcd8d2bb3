import ModelRuns.Memory.Disk

namespace ModelRuns

/-!
# A run log on a disk

A run log that could be emptied can be appended to from then on.  Emptying it has made the
directory it lies in, and neither a directory nor the file goes away when the file changes:
a directory of the disk before is one of the disk after, so every path that was found leads
to the same place.  The file then holds what was appended, in order, and nothing else.
-/

/-! ## Texts as bytes -/

theorem byteList_loop (bytes : ByteArray) (index : Nat) (done : List UInt8) :
    ByteArray.toList.loop bytes index done = done.reverse ++ bytes.data.toList.drop index := by
  induction index, done using ByteArray.toList.loop.induct bytes with
  | case1 index done inside inductionHypothesis =>
    have held : index < bytes.data.toList.length := inside
    have byte : bytes.get! index = bytes.data.toList[index] :=
      getElem!_pos bytes.data index inside
    rw [ByteArray.toList.loop, if_pos inside, inductionHypothesis, List.reverse_cons,
      List.append_assoc, List.singleton_append, byte, List.drop_eq_getElem_cons held]
  | case2 index done outside =>
    rw [ByteArray.toList.loop, if_neg outside, List.drop_eq_nil_of_le, List.append_nil]
    exact Nat.le_of_not_lt outside

theorem encodeUtf8_eq (text : String) : encodeUtf8 text = text.toByteArray.data.toList := by
  rw [encodeUtf8, ByteArray.toList, byteList_loop]
  rfl

theorem encodeUtf8_append (front back : String) :
    encodeUtf8 (front ++ back) = encodeUtf8 front ++ encodeUtf8 back := by
  rw [encodeUtf8_eq, encodeUtf8_eq, encodeUtf8_eq, String.toByteArray_append,
    ByteArray.toList_data_append]

namespace Disk

/-- A sequence of two parts succeeds exactly if both succeed. -/
theorem bind_eq_ok_iff {ε α β : Type} {first : Except ε α} {next : α → Except ε β} {result : β} :
    first >>= next = .ok result ↔ ∃ value, first = .ok value ∧ next value = .ok result := by
  cases first <;> simp [bind, Except.bind]

variable {disk later : Disk} {path : Path} {place other : Place} {node : DiskNode}
  {bytes : List UInt8}

/-! ## What lies at a place after a change -/

/-- The node a list of entries holds for a place. -/
def nodeOf (place : Place) (nodes : List (Place × DiskNode)) : Option DiskNode :=
  (nodes.find? (fun entry => entry.1 == place)).map (·.2)

@[simp] theorem nodeOf_nil : nodeOf place [] = none := rfl

theorem nodeOf_cons (entry : Place × DiskNode) (nodes : List (Place × DiskNode)) :
    nodeOf place (entry :: nodes) =
      if entry.1 = place then some entry.2 else nodeOf place nodes := by
  unfold nodeOf
  by_cases same : entry.1 = place <;> simp [same]

theorem nodeOf_append (front back : List (Place × DiskNode)) :
    nodeOf place (front ++ back) = (nodeOf place front).or (nodeOf place back) := by
  simp [nodeOf, List.find?_append, Option.map_or]

/-- Where the entries of a place are replaced, it holds the new node if it held one. -/
theorem nodeOf_replace (nodes : List (Place × DiskNode)) :
    nodeOf other (nodes.map fun entry => if entry.1 = place then (place, node) else entry) =
      if other = place then (nodeOf other nodes).map fun _ => node else nodeOf other nodes := by
  induction nodes with
  | nil => simp
  | cons entry nodes inductionHypothesis =>
    rw [List.map_cons, nodeOf_cons, nodeOf_cons, inductionHypothesis]
    grind

theorem nodeOf_set :
    nodeOf other (disk.set place node).nodes =
      if other = place then some node else nodeOf other disk.nodes := by
  have held : disk.nodes.any (·.1 == place) = (nodeOf place disk.nodes).isSome := by
    rw [nodeOf, Option.isSome_map, List.isSome_find?]
  unfold set
  rw [held]
  cases found : nodeOf place disk.nodes with
  | none =>
    simp only [Option.isSome_none, Bool.false_eq_true, if_false]
    rw [nodeOf_append, nodeOf_cons]
    grind [nodeOf_nil]
  | some old =>
    simp only [Option.isSome_some, if_true]
    rw [nodeOf_replace]
    split
    next same => rw [same, found]; rfl
    next => rfl

theorem look_eq : disk.look place =
    match place.getLast? with
    | none => .ok (some .directory)
    | some name =>
      if longestName < name.utf8ByteSize then .error .nameTooLong
      else .ok (nodeOf place disk.nodes) := rfl

/-- A place that can hold a node holds what was put there. -/
theorem look_set_self {found : Option DiskNode} (held : disk.look place = .ok found)
    (free : found ≠ some .directory) : (disk.set place node).look place = .ok (some node) := by
  rw [look_eq] at held ⊢
  cases named : place.getLast? with
  | none =>
    rw [named] at held
    cases held
    exact absurd rfl free
  | some name =>
    simp only [named] at held ⊢
    split at held
    next => cases held
    next short => rw [if_neg short, nodeOf_set, if_pos rfl]

theorem look_set_of_ne (apart : other ≠ place) :
    (disk.set place node).look other = disk.look other := by
  rw [look_eq, look_eq, nodeOf_set, if_neg apart]

/-! ## Paths lead where they led -/

/-- Relative paths begin where they did, and every directory is still one. -/
structure KeepsDirectories (disk later : Disk) : Prop where
  start : later.workingDirectory = disk.workingDirectory
  kept : ∀ place, disk.look place = .ok (some .directory) →
    later.look place = .ok (some .directory)

/-- What is not a directory may be replaced. -/
theorem keepsDirectories_set {found : Option DiskNode} (held : disk.look place = .ok found)
    (free : found ≠ some .directory) : disk.KeepsDirectories (disk.set place node) where
  start := by
    unfold set
    split <;> rfl
  kept := by
    intro other there
    have apart : other ≠ place := by
      rintro rfl
      rw [there] at held
      cases held
      exact free rfl
    rw [look_set_of_ne apart, there]

namespace KeepsDirectories

theorem enter (keeps : disk.KeepsDirectories later) {piece : String}
    (entered : disk.enter place piece = .ok other) : later.enter place piece = .ok other := by
  unfold Disk.enter at entered ⊢
  split
  next here => simpa only [if_pos here] using entered
  next onward =>
    rw [if_neg onward] at entered
    split
    next up => simpa only [if_pos up] using entered
    next down =>
      rw [if_neg down] at entered
      rcases bind_eq_ok_iff.mp entered with ⟨found, there, arrived⟩
      match found, arrived with
      | some .directory, arrived =>
        exact bind_eq_ok_iff.mpr ⟨_, keeps.kept _ there, arrived⟩

theorem follow (keeps : disk.KeepsDirectories later) {asDirectory : Bool} {pieces : List String}
    {spot : Spot} (led : disk.follow asDirectory place pieces = .ok spot) :
    later.follow asDirectory place pieces = .ok spot := by
  -- The last piece need not be there; every piece before it leads into a directory.
  induction place, pieces using Disk.follow.induct disk with
  | case1 place => exact led
  | case2 place piece stays =>
    rw [Disk.follow, if_pos stays] at led ⊢
    cases entered : disk.enter place piece with
    | error fault =>
      rw [entered] at led
      cases led
    | ok inner =>
      rw [entered] at led
      rw [keeps.enter entered]
      exact led
  | case3 place piece goes =>
    rw [Disk.follow, if_neg goes] at led ⊢
    exact led
  | case4 place piece rest more fault entered =>
    rw [Disk.follow, entered] at led
    · cases led
    · exact more
  | case5 place piece rest more inner entered inductionHypothesis =>
    rw [Disk.follow, entered] at led
    · rw [Disk.follow, keeps.enter entered]
      · exact inductionHypothesis led
      · exact more
    · exact more

theorem locate (keeps : disk.KeepsDirectories later) {spot : Spot}
    (led : disk.locate path = .ok spot) : later.locate path = .ok spot := by
  unfold Disk.locate at led ⊢
  split at led
  next => cases led
  next sound =>
    split at led
    next => cases led
    next present =>
      split at led
      next => cases led
      next short =>
        rw [if_neg sound, if_neg present, if_neg short, keeps.start]
        exact keeps.follow led

end KeepsDirectories

/-! ## Directories -/

theorem visit_eq_ok_iff {spot : Spot} {found : Option DiskNode} :
    disk.visit path = .ok (spot, found) ↔
      disk.locate path = .ok spot ∧ disk.look spot.place = .ok found := by
  simp only [visit, bind_eq_ok_iff, pure, Except.pure, Except.ok.injEq, Prod.mk.injEq]
  grind

theorem isDirectory_iff : disk.isDirectory path = true ↔
    ∃ spot, disk.locate path = .ok spot ∧ disk.look spot.place = .ok (some .directory) := by
  simp only [← visit_eq_ok_iff, isDirectory]
  cases visited : disk.visit path with
  | error fault => simp
  | ok pair => simp [Prod.ext_iff]

theorem KeepsDirectories.isDirectory (keeps : disk.KeepsDirectories later)
    (there : disk.isDirectory path = true) : later.isDirectory path = true := by
  obtain ⟨spot, led, held⟩ := isDirectory_iff.mp there
  exact isDirectory_iff.mpr ⟨spot, keeps.locate led, keeps.kept _ held⟩

theorem makeOne_eq_ok_iff : disk.makeOne path = .ok later ↔
    ∃ spot, disk.locate path = .ok spot ∧ disk.look spot.place = .ok none ∧
      later = disk.set spot.place .directory := by
  simp only [makeOne, bind_eq_ok_iff, Prod.exists, visit_eq_ok_iff]
  constructor
  · rintro ⟨spot, found, ⟨led, held⟩, made⟩
    cases found with
    | none => exact ⟨spot, led, held, (Except.ok.inj made).symm⟩
    | some node => cases made
  · rintro ⟨spot, led, held, rfl⟩
    exact ⟨spot, none, ⟨led, held⟩, rfl⟩

/-- A directory that was made, or was there already, is there. -/
theorem isDirectory_of_ensureOne (made : disk.ensureOne path = .ok later) :
    later.isDirectory path = true := by
  unfold ensureOne at made
  split at made
  next fresh succeeded =>
    cases made
    obtain ⟨spot, led, held, rfl⟩ := makeOne_eq_ok_iff.mp succeeded
    have keeps : disk.KeepsDirectories (disk.set spot.place .directory) :=
      keepsDirectories_set held nofun
    exact isDirectory_iff.mpr ⟨spot, keeps.locate led, look_set_self held nofun⟩
  next =>
    split at made
    next there =>
      cases made
      exact there
    next => cases made

/-- A directory that is there need not be made. -/
theorem ensureOne_of_isDirectory (there : disk.isDirectory path = true) :
    disk.ensureOne path = .ok disk := by
  unfold ensureOne
  split
  next fresh succeeded =>
    obtain ⟨spot, led, held, -⟩ := makeOne_eq_ok_iff.mp succeeded
    obtain ⟨same, found, directory⟩ := isDirectory_iff.mp there
    rw [led] at found
    cases found
    rw [held] at directory
    cases directory
  next => rw [if_pos there]

/-- Files can be put into a directory: it is there, or it is the one relative paths begin
in. -/
def Accommodates (disk : Disk) (directory : Path) : Prop :=
  directory.text = "" ∨ disk.isDirectory directory = true

theorem settle_eq_ok_iff {outcome : Except DiskFault Disk} :
    disk.settle outcome = (.ok (), later) ↔ outcome = .ok later := by
  cases outcome <;> simp [settle]

/-- A directory that was made, and those above it, accommodates files. -/
theorem accommodates_of_makeAll {turns : Nat}
    (made : disk.makeAll path turns = (.ok (), later)) : later.Accommodates path := by
  cases turns with
  | zero => cases made
  | succ turns =>
    rw [makeAll] at made
    split at made
    next empty => exact .inl empty
    next =>
      split at made
      next =>
        split at made
        next => cases made
        next parent above =>
          split at made
          next between _ =>
            exact .inr (isDirectory_of_ensureOne (settle_eq_ok_iff.mp made))
          next failed refused =>
            exact absurd made (refused later)
      next => exact .inr (isDirectory_of_ensureOne (settle_eq_ok_iff.mp made))

/-- A directory that accommodates files already is left as it is. -/
theorem Accommodates.makeDirectory (ready : disk.Accommodates path) :
    disk.makeDirectory path = (.ok (), disk) := by
  rw [Disk.makeDirectory, makeAll]
  rcases ready with empty | there
  · rw [if_pos empty]
  · split
    next => rfl
    next =>
      rw [ensureOne_of_isDirectory there]
      rfl

theorem KeepsDirectories.accommodates (keeps : disk.KeepsDirectories later)
    (ready : disk.Accommodates path) : later.Accommodates path :=
  ready.imp_right keeps.isDirectory

/-! ## Files -/

/-- A path leads to a file with some bytes. -/
def HasFile (disk : Disk) (path : Path) (bytes : List UInt8) : Prop :=
  ∃ place, disk.locate path = .ok ⟨place, false⟩ ∧ disk.look place = .ok (some (.file bytes))

theorem HasFile.readBytes (holds : disk.HasFile path bytes) :
    disk.readBytes path = .ok bytes := by
  obtain ⟨place, led, held⟩ := holds
  have found : disk.fileAt path = .ok (place, bytes) :=
    bind_eq_ok_iff.mpr ⟨_, visit_eq_ok_iff.mpr ⟨led, held⟩, rfl⟩
  rw [Disk.readBytes, found]
  rfl

/-- A file put where there is no directory is found, and the directories are kept. -/
theorem hasFile_set {found : Option DiskNode} (led : disk.locate path = .ok ⟨place, false⟩)
    (held : disk.look place = .ok found) (free : found ≠ some .directory) :
    disk.KeepsDirectories (disk.set place (.file bytes)) ∧
      (disk.set place (.file bytes)).HasFile path bytes := by
  have keeps : disk.KeepsDirectories (disk.set place (.file bytes)) :=
    keepsDirectories_set held free
  exact ⟨keeps, place, keeps.locate led, look_set_self held free⟩

/-- The bytes of the file at a place, and no bytes where there is none yet. -/
def bytesOf : Option DiskNode → List UInt8
  | some (.file bytes) => bytes
  | _ => []

/-- A change of a file puts what it makes of the bytes where there is no directory. -/
theorem modifyFile_eq_ok_iff {change : List UInt8 → List UInt8} :
    disk.modifyFile path change = .ok later ↔
      ∃ place found, disk.locate path = .ok ⟨place, false⟩ ∧ disk.look place = .ok found ∧
        found ≠ some .directory ∧ later = disk.set place (.file (change (bytesOf found))) := by
  simp only [modifyFile, bind_eq_ok_iff]
  constructor
  · rintro ⟨⟨place, asDirectory⟩, led, changed⟩
    cases asDirectory with
    | true => cases changed
    | false =>
      rcases bind_eq_ok_iff.mp changed with ⟨found, held, ended⟩
      match found, ended with
      | none, ended => exact ⟨place, none, led, held, nofun, (Except.ok.inj ended).symm⟩
      | some (.file bytes), ended =>
        exact ⟨place, _, led, held, by simp, (Except.ok.inj ended).symm⟩
  · rintro ⟨place, found, led, held, free, rfl⟩
    refine ⟨⟨place, false⟩, led, bind_eq_ok_iff.mpr ⟨found, held, ?_⟩⟩
    match found, free with
    | none, _ => rfl
    | some (.file bytes), _ => rfl
    | some .directory, free => exact absurd rfl free

/-- A file that was changed holds what the change made of some bytes. -/
theorem hasFile_of_modifyFile {change : List UInt8 → List UInt8}
    (changed : disk.modifyFile path change = .ok later) :
    disk.KeepsDirectories later ∧ ∃ old, later.HasFile path (change old) := by
  obtain ⟨place, found, led, held, free, rfl⟩ := modifyFile_eq_ok_iff.mp changed
  exact (hasFile_set led held free).imp_right (⟨_, ·⟩)

/-- A file that is there can be changed. -/
theorem HasFile.modifyFile (holds : disk.HasFile path bytes)
    (change : List UInt8 → List UInt8) :
    ∃ later, disk.modifyFile path change = .ok later ∧ disk.KeepsDirectories later ∧
      later.HasFile path (change bytes) := by
  obtain ⟨place, led, held⟩ := holds
  have free : some (DiskNode.file bytes) ≠ some .directory := by simp
  exact ⟨_, modifyFile_eq_ok_iff.mpr ⟨place, _, led, held, free, rfl⟩, hasFile_set led held free⟩

/-! ## Run logs -/

/-- A change of a run log makes its directory and then changes the file. -/
theorem changeLog_eq_ok_iff {change : List UInt8 → List UInt8} :
    disk.changeLog path change = (.ok (), later) ↔
      ∃ prepared, disk.prepareLog path = (.ok (), prepared) ∧
        prepared.modifyFile path change = .ok later := by
  unfold changeLog
  rcases disk.prepareLog path with ⟨outcome, prepared⟩
  cases outcome with
  | error fault =>
    refine iff_of_false (fun impossible => ?_) (fun ⟨_, impossible, _⟩ => ?_)
    · cases impossible
    · cases impossible
  | ok _ =>
    cases changed : prepared.modifyFile path change with
    | error fault =>
      simp only [changed, settle]
      refine iff_of_false (fun impossible => ?_) ?_
      · cases impossible
      · rintro ⟨_, made, succeeded⟩
        cases made
        rw [changed] at succeeded
        cases succeeded
    | ok final =>
      simp only [changed, settle]
      constructor
      · intro ended
        cases ended
        exact ⟨prepared, rfl, changed⟩
      · rintro ⟨_, made, succeeded⟩
        cases made
        rw [changed] at succeeded
        cases succeeded
        rfl

/-- The directory of a run log is there, if it has one. -/
def ReadyFor (disk : Disk) (path : Path) : Prop :=
  ∀ parent, path.parent? = some parent → disk.Accommodates parent

theorem readyFor_of_prepareLog (made : disk.prepareLog path = (.ok (), later)) :
    later.ReadyFor path := by
  intro parent above
  rw [prepareLog, above] at made
  exact accommodates_of_makeAll made

theorem ReadyFor.prepareLog (ready : disk.ReadyFor path) :
    disk.prepareLog path = (.ok (), disk) := by
  unfold Disk.prepareLog
  cases above : path.parent? with
  | none => rfl
  | some parent => exact (ready parent above).makeDirectory

theorem KeepsDirectories.readyFor (keeps : disk.KeepsDirectories later)
    (ready : disk.ReadyFor path) : later.ReadyFor path :=
  fun parent above => keeps.accommodates (ready parent above)

/-- A run log holds some bytes and can be appended to. -/
structure HasLog (disk : Disk) (path : Path) (bytes : List UInt8) : Prop where
  ready : disk.ReadyFor path
  holds : disk.HasFile path bytes

/-- A run log that was emptied is there and holds nothing. -/
theorem hasLog_of_clearLog (cleared : disk.clearLog path = (.ok (), later)) :
    later.HasLog path [] := by
  obtain ⟨prepared, made, changed⟩ := changeLog_eq_ok_iff.mp cleared
  obtain ⟨keeps, -, holds⟩ := hasFile_of_modifyFile changed
  exact ⟨keeps.readyFor (readyFor_of_prepareLog made), holds⟩

/-- A line is appended behind what a run log holds. -/
theorem HasLog.appendLog (log : disk.HasLog path bytes) (line : String) :
    ∃ later, disk.appendLog path line = (.ok (), later) ∧
      later.HasLog path (bytes ++ encodeUtf8 (line ++ "\n")) := by
  obtain ⟨later, changed, keeps, holds⟩ :=
    log.holds.modifyFile (· ++ encodeUtf8 (line ++ "\n"))
  exact ⟨later, changeLog_eq_ok_iff.mpr ⟨disk, log.ready.prepareLog, changed⟩,
    keeps.readyFor log.ready, holds⟩

end Disk

end ModelRuns
