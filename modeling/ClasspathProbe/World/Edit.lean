import ClasspathProbe.World

/-!
# Changes from outside

What others may do to the world between two actions: add, remove, touch and permit files, go to
another directory, and set the environment.
-/

namespace ClasspathProbe

namespace FileTree

/-- A tree in which every directory on the way to a path is there, the path itself included when
`last` is set. -/
def withDirectories (t : FileTree) (path : Text) (last : Bool) : FileTree :=
  let names := (steps path).filter fun name => name ≠ [] && name ≠ ['.']
  let count := if last then names.length else names.length - 1
  (List.range count).foldl (fun t k =>
    let above : Text := '/' :: Text.joined ['/'] (names.take (k + 1))
    match t.makeDirectory [] above with
    | .ok t => t
    | .error _ => t) t

/-- A tree with a node put at the end of an absolute path, and the directories above it. What a
link at that place leads to is replaced, unless the node is a link itself. -/
def put (t : FileTree) (path : Text) (node : Node) : FileTree :=
  let aim : Aim := match node with | .link _ => .entry | _ => .target
  let t := t.withDirectories path false
  match t.locate [] aim path with
  | .ok (.found place _) => t.insert place node
  | .ok (.free directory name) => t.insert (directory ++ [name]) node
  | .error _ => t

/-- A tree with what a path leads to changed at a given time. -/
def touch (t : FileTree) (path : Text) (time : Int) : FileTree :=
  match t.look [] path with
  | .ok (place, .file f) => t.insert place (.file { f with modified := time })
  | .ok (place, .directory _) => t.insert place (.directory time)
  | _ => t

/-- A tree in which the file that a path leads to may or may not be executed. -/
def permit (t : FileTree) (path : Text) (executable : Bool) : FileTree :=
  match t.look [] path with
  | .ok (place, .file f) => t.insert place (.file { f with executable })
  | _ => t

/-- A tree without what a path names and everything below it. -/
def removeAll (t : FileTree) (path : Text) : FileTree :=
  match t.locate [] .entry path with
  | .ok (.found place _) => t.prune place
  | _ => t

end FileTree

namespace World

/-- A world with another tree. -/
def edit (f : FileTree → FileTree) (w : World) : World := { w with tree := f w.tree }

/-- A world in which the working directory is the one that a path leads to. -/
def enter (path : Text) (w : World) : World :=
  match w.tree.look w.here path with
  | .ok (place, .directory _) => { w with here := place }
  | _ => w

end World

end ClasspathProbe
