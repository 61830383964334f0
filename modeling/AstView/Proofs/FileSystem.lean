import AstView.FileSystem
import Mathlib.Data.List.Basic

/-!
# Making and filling files

Putting something at a location changes what is there and nothing else (`at?_put`). Where a path
has a place for a file, making the file there empties it (`create_of_place`), and from then on the
path leads to that place, so what is added to the file is all that it has
(`append_put`, `read_put`). Walking to the place meets directories only, and a file that is put
somewhere hides none of them (`walk_put`).
-/
namespace AstView

namespace FilePath

/-- The last segment of a path that does not end in a slash is not empty. -/
theorem segments_eq_concat {path : Bytes} (filled : path ≠ []) (ends : path.getLast? ≠ some slash) :
    ∃ front last, segments path = front ++ [last] ∧ last ≠ [] := by
  induction path with
  | nil => exact absurd rfl filled
  | cons next rest ih =>
    cases rest with
    | nil =>
      have other : next ≠ slash := by
        rintro rfl
        exact ends rfl
      exact ⟨[], [next], by rw [segments, if_neg other]; rfl, List.cons_ne_nil _ _⟩
    | cons second others =>
      rw [List.getLast?_cons_cons] at ends
      obtain ⟨front, last, same, solid⟩ := ih (List.cons_ne_nil _ _) ends
      by_cases mark : next = slash
      · exact ⟨[] :: front, last, by rw [segments, if_pos mark, same]; rfl, solid⟩
      · cases front with
        | nil => exact ⟨[], next :: last, by rw [segments, if_neg mark, same]; rfl, nofun⟩
        | cons first later =>
          exact ⟨(next :: first) :: later, last, by rw [segments, if_neg mark, same]; rfl, solid⟩

end FilePath

namespace FileSystem

variable {files : FileSystem} {location : Location} {inode : Inode}

/-! ## Putting something at a location -/

theorem find?_putInode (location other : Location) (inode : Inode)
    (inodes : List (Location × Inode)) :
    ((putInode location inode inodes).find? fun entry => entry.1 == other).map (·.2) =
      if other = location then some inode
      else (inodes.find? fun entry => entry.1 == other).map (·.2) := by
  induction inodes with
  | nil =>
    by_cases same : other = location
    · simp [putInode, same]
    · simp [putInode, same, Ne.symm same]
  | cons head rest ih =>
    rw [putInode]
    by_cases here : head.1 = location
    · rw [if_pos here]
      by_cases same : other = location
      · simp [same]
      · simp [same, Ne.symm same, here]
    · rw [if_neg here]
      by_cases found : head.1 = other
      · have different : other ≠ location := fun same => here (found.trans same)
        simp [found, different]
      · simp only [List.find?_cons, beq_eq_false_iff_ne.2 found]
        exact ih

/-- Only what is at the location changes. -/
theorem at?_put (below : location ≠ []) (inode : Inode) (other : Location) :
    (files.put location inode).at? other =
      if other = location then some inode else files.at? other := by
  unfold at?
  cases other with
  | nil => simp [Ne.symm below]
  | cons first rest => exact find?_putInode location (first :: rest) inode files.inodes

/-- Of two things put at one location the second one is there. -/
theorem put_put (location : Location) (first second : Inode) :
    (files.put location first).put location second = files.put location second := by
  have twice (inodes : List (Location × Inode)) :
      putInode location second (putInode location first inodes) =
        putInode location second inodes := by
    induction inodes with
    | nil => simp [putInode]
    | cons head rest ih =>
      by_cases here : head.1 = location
      · simp [putInode, here]
      · simp [putInode, here, ih]
  rw [put, put, put, twice]

/-! ## Walking -/

/-- The location to which one segment leads. -/
def step (files : FileSystem) (here : Location) (segment : Bytes) : Except FileError Location :=
  if !files.isDirectoryAt here then .error .notDirectory
  else if FilePath.isHere segment then .ok here
  else if FilePath.isUp segment then .ok here.dropLast
  else if segmentLimit < segment.length then .error .nameTooLong
  else if (files.at? (here ++ [segment])).isSome then .ok (here ++ [segment])
  else .error .missing

/-- A walk goes segment by segment. -/
theorem walk_cons (here : Location) (segment : Bytes) (rest : List Bytes) :
    files.walk here (segment :: rest) =
      (files.step here segment).bind fun next => files.walk next rest := by
  rw [walk, step]
  split_ifs <;> rfl

/-- A walk along two stretches is a walk along one after the other. -/
theorem walk_append (here : Location) (front rest : List Bytes) :
    files.walk here (front ++ rest) =
      (files.walk here front).bind fun next => files.walk next rest := by
  induction front generalizing here with
  | nil => rfl
  | cons segment others ih =>
    rw [List.cons_append, walk_cons, walk_cons]
    cases files.step here segment with
    | error error => rfl
    | ok next => exact ih next

/-- A step leads on from a directory only. -/
theorem isDirectoryAt_of_step {here there : Location} {segment : Bytes}
    (stepped : files.step here segment = .ok there) : files.isDirectoryAt here = true := by
  cases directory : files.isDirectoryAt here with
  | true => rfl
  | false =>
    rw [step, directory] at stepped
    cases stepped

/-- What is put in the place of something other than a directory hides no directory. -/
theorem isDirectoryAt_put (below : location ≠ []) (other : files.isDirectoryAt location = false)
    {here : Location} (directory : files.isDirectoryAt here = true) :
    (files.put location inode).isDirectoryAt here = true := by
  have apart : here ≠ location := by
    rintro rfl
    rw [other] at directory
    cases directory
  rw [isDirectoryAt, at?_put below, if_neg apart]
  exact directory

/-- A step leads where it led before something was put in the place of something other than a
directory. -/
theorem step_put (below : location ≠ []) (other : files.isDirectoryAt location = false)
    {here there : Location} {segment : Bytes} (stepped : files.step here segment = .ok there) :
    (files.put location inode).step here segment = .ok there := by
  have directory := isDirectoryAt_of_step stepped
  have still (found : (files.at? (here ++ [segment])).isSome = true) :
      ((files.put location inode).at? (here ++ [segment])).isSome = true := by
    rw [at?_put below]
    split
    · rfl
    · exact found
  rw [step, directory] at stepped
  rw [step, isDirectoryAt_put below other directory]
  simp only [Bool.not_true, Bool.false_eq_true, if_false] at stepped ⊢
  by_cases stay : FilePath.isHere segment = true
  · rw [if_pos stay] at stepped ⊢
    exact stepped
  by_cases up : FilePath.isUp segment = true
  · rw [if_neg stay, if_pos up] at stepped ⊢
    exact stepped
  by_cases long : segmentLimit < segment.length
  · rw [if_neg stay, if_neg up, if_pos long] at stepped
    cases stepped
  by_cases found : (files.at? (here ++ [segment])).isSome = true
  · rw [if_neg stay, if_neg up, if_neg long, if_pos found] at stepped
    rw [if_neg stay, if_neg up, if_neg long, if_pos (still found)]
    exact stepped
  · rw [if_neg stay, if_neg up, if_neg long, if_neg found] at stepped
    cases stepped

/-- A walk leads where it led before something was put in the place of something other than a
directory. -/
theorem walk_put (below : location ≠ []) (other : files.isDirectoryAt location = false)
    {here there : Location} {segments : List Bytes}
    (walked : files.walk here segments = .ok there) :
    (files.put location inode).walk here segments = .ok there := by
  induction segments generalizing here with
  | nil => exact walked
  | cons segment rest ih =>
    rw [walk_cons] at walked ⊢
    cases stepped : files.step here segment with
    | error error =>
      rw [stepped] at walked
      cases walked
    | ok next =>
      rw [stepped] at walked
      rw [step_put below other stepped]
      exact ih walked

/-! ## Places of files -/

/-- The place for a file at a path: where the last segment of the path, which leads down, leads from
the directory to which the others lead. -/
structure IsPlace (files : FileSystem) (path : String) (location here parent : Location)
    (front : List Bytes) (last : Bytes) : Prop where
  /-- The path starts somewhere. -/
  started : files.start (Utf8.encode path) = .ok here
  /-- The last segment stands behind the others. -/
  split : FilePath.segments (Utf8.encode path) = front ++ [last]
  /-- The others lead on. -/
  walked : files.walk here front = .ok parent
  /-- They lead to a directory. -/
  directory : files.isDirectoryAt parent = true
  /-- The last segment does not stay. -/
  away : FilePath.isHere last = false
  /-- It does not lead up. -/
  down : FilePath.isUp last = false
  /-- It is not too long. -/
  short : ¬segmentLimit < last.length
  /-- It leads to the place. -/
  same : location = parent ++ [last]

/-- What comes of two computations in a row comes of the second one. -/
theorem bind_eq_ok {ε α β : Type} {first : Except ε α} {next : α → Except ε β} {result : β} :
    (first >>= next) = .ok result ↔ ∃ found, first = .ok found ∧ next found = .ok result := by
  cases first with
  | error error => exact ⟨nofun, fun ⟨_, found, _⟩ => nomatch found⟩
  | ok found => exact ⟨fun done => ⟨found, rfl, done⟩, fun ⟨_, rfl, done⟩ => done⟩

/-- Where a path has a place for a file. -/
theorem isPlace_of_place {path : String} (placed : files.place path = .ok location) :
    ∃ here parent front last, IsPlace files path location here parent front last := by
  dsimp only [place] at placed
  obtain ⟨here, started, placed⟩ := bind_eq_ok.1 placed
  have filled : Utf8.encode path ≠ [] := by
    intro empty
    rw [empty] at started
    cases started
  by_cases ends : (Utf8.encode path).getLast? = some FilePath.slash
  · -- A slash at the end asks for a directory, which is no place for a file.
    split at placed
    · cases placed
    · split at placed
      · obtain ⟨_, _, placed⟩ := bind_eq_ok.1 placed
        cases placed
      · obtain ⟨_, _, placed⟩ := bind_eq_ok.1 placed
        split at placed <;> cases placed
  · obtain ⟨front, last, segments, solid⟩ := FilePath.segments_eq_concat filled ends
    have reversed : (FilePath.segments (Utf8.encode path)).reverse.dropWhile (·.isEmpty) =
        last :: front.reverse := by
      rw [segments, List.reverse_concat, List.dropWhile_cons, if_neg (by simpa using solid)]
    simp only [reversed, List.reverse_reverse] at placed
    by_cases leads : (FilePath.isHere last || FilePath.isUp last) = true
    · rw [if_pos leads] at placed
      obtain ⟨_, _, placed⟩ := bind_eq_ok.1 placed
      cases placed
    · rw [if_neg leads] at placed
      obtain ⟨parent, walked, placed⟩ := bind_eq_ok.1 placed
      rw [Bool.not_eq_true, Bool.or_eq_false_iff] at leads
      cases directory : files.isDirectoryAt parent with
      | false =>
        rw [directory] at placed
        cases placed
      | true =>
        rw [directory, if_neg ends] at placed
        by_cases long : segmentLimit < last.length
        · rw [if_pos long] at placed
          cases placed
        · rw [if_neg long] at placed
          exact ⟨here, parent, front, last, started, segments, walked, directory, leads.1,
            leads.2, long, (Except.ok.inj placed).symm⟩

section
variable {path : String} (placed : files.place path = .ok location)
include placed

/-- The root is no place for a file. -/
theorem ne_root_of_place : location ≠ [] := by
  obtain ⟨here, parent, front, last, own⟩ := isPlace_of_place placed
  rw [own.same]
  exact List.append_ne_nil_of_right_ne_nil _ (List.cons_ne_nil _ _)

variable (other : files.isDirectoryAt location = false)
include other

/-- A path leads to the place for its file as soon as something is there. -/
theorem locate_put (inode : Inode) : (files.put location inode).locate path = .ok location := by
  obtain ⟨here, parent, front, last, own⟩ := isPlace_of_place placed
  have below := ne_root_of_place placed
  have walked : (files.put location inode).walk here front = .ok parent :=
    walk_put below other own.walked
  have directory : (files.put location inode).isDirectoryAt parent = true :=
    isDirectoryAt_put below other own.directory
  have stepped : (files.put location inode).step parent last = .ok location := by
    have found : ((files.put location inode).at? (parent ++ [last])).isSome = true := by
      rw [← own.same, at?_put below, if_pos rfl]
      rfl
    rw [step, directory, own.away, own.down, if_neg own.short, if_pos found, own.same]
    rfl
  have led : (files.put location inode).walk here (front ++ [last]) = .ok location := by
    rw [walk_append, walked]
    change (files.put location inode).walk parent [last] = .ok location
    rw [walk_cons, stepped]
    rfl
  rw [← own.split] at led
  exact bind_eq_ok.2 ⟨here, own.started, led⟩

/-- What is added to a file at its place stands behind what is there. -/
theorem append_put (content bytes : Bytes) :
    (files.put location (.file content)).append path bytes =
      .ok (files.put location (.file (content ++ bytes))) := by
  have found : (files.put location (.file content)).at? location = some (.file content) := by
    rw [at?_put (ne_root_of_place placed), if_pos rfl]
  rw [append, locate_put placed other]
  simp only [bind, Except.bind, found, put_put]

/-- A file is read at its place. -/
theorem read_put (content : Bytes) :
    (files.put location (.file content)).read path = .ok content := by
  have found : (files.put location (.file content)).at? location = some (.file content) := by
    rw [at?_put (ne_root_of_place placed), if_pos rfl]
  rw [read, locate_put placed other]
  simp only [bind, Except.bind, found]

end

/-! ## Making files -/

/-- There is a regular file at a location, or nothing. -/
def HasRoom (files : FileSystem) (location : Location) : Prop :=
  files.at? location = none ∨ ∃ content, files.at? location = some (.file content)

/-- No directory is where there is room for a file. -/
theorem HasRoom.isDirectoryAt (room : files.HasRoom location) :
    files.isDirectoryAt location = false := by
  rw [FileSystem.isDirectoryAt]
  obtain none | ⟨content, file⟩ := room
  · rw [none]
    rfl
  · rw [file]
    rfl

/-- Making a file empties what is at its place. -/
theorem create_of_place {path : String} (placed : files.place path = .ok location)
    (room : files.HasRoom location) : files.create path = .ok (files.put location (.file [])) := by
  rw [create, placed]
  obtain none | ⟨content, file⟩ := room
  · simp only [bind, Except.bind, none]
  · simp only [bind, Except.bind, file]

/-- A file that is made has a place. If that is not taken by a device, nothing else changes. -/
theorem place_of_create {path : String} {made : FileSystem}
    (created : files.create path = .ok made) :
    ∃ location, files.place path = .ok location ∧
      (files.HasRoom location → made = files.put location (.file [])) := by
  obtain ⟨location, placed, -⟩ := bind_eq_ok.1 created
  refine ⟨location, placed, fun room => ?_⟩
  rw [create_of_place placed room] at created
  exact (Except.ok.inj created).symm

/-! ## Computations on files -/

/-- Two computations in a row are the second one after the first. -/
theorem bind_eq {α β : Type} {action : StateM FileSystem α} {next : α → StateM FileSystem β}
    {before after : FileSystem} {value : α} (ran : action before = (value, after)) :
    (action >>= next) before = next value after := by
  change next (action before).1 (action before).2 = _
  rw [ran]

/-- Making a file in memory changes the files if it succeeds. -/
theorem host_create (path : String) :
    host.create path files =
      match files.create path with
      | .ok made => (.ok (), made)
      | .error error => (.error error, files) := rfl

/-- Adding to a file in memory changes the files if it succeeds. -/
theorem host_append (path : String) (bytes : Bytes) :
    host.append path bytes files =
      match files.append path bytes with
      | .ok changed => (.ok (), changed)
      | .error error => (.error error, files) := rfl

/-- A computation leaves the files as they are. -/
def Quiet {α : Type} (action : StateM FileSystem α) : Prop := ∀ files, (action files).2 = files

namespace Quiet

variable {α β : Type}

theorem pure (value : α) : Quiet (Pure.pure value) := fun _ => rfl

/-- Two computations in a row leave the files as they are if both do. -/
theorem bind {action : StateM FileSystem α} {next : α → StateM FileSystem β}
    (first : Quiet action) (second : ∀ value, Quiet (next value)) : Quiet (action >>= next) := by
  intro files
  change (next (action files).1 (action files).2).2 = files
  rw [first files]
  exact second _ files

theorem read (path : String) : Quiet (host.read path) := fun _ => rfl

theorem isFile (path : String) : Quiet (host.isFile path) := fun _ => rfl

theorem workingDirectory : Quiet host.workingDirectory := fun _ => rfl

end Quiet

end FileSystem

end AstView
