import StagedBuild.Calendar.Format
import StagedBuild.Script.Pattern
import StagedBuild.Script.Tools.Mode
import StagedBuild.Script.Tools.Order
import StagedBuild.Script.Tools.Quantity
import StagedBuild.Script.Tools.Removing
import StagedBuild.Script.Tools.Showing
import StagedBuild.Text.Width

/-!
# Listing files

Listing files and what directories hold: only names, in lines or in columns, or all that is known of
them.
-/

namespace StagedBuild.Script.Tools

open Process

namespace Listing

/-- How names are laid out. -/
inductive Layout where
  | single
  | long
  | columns
  | rows
  | commas
  deriving DecidableEq, Repr

/-- What files are ordered by. -/
inductive SortedBy where
  | name
  | time
  | size
  | ending
  | version
  | width
  | nothing
  deriving DecidableEq, Repr

/-- Which marks are put behind names. -/
inductive Marks where
  | none
  | directories
  | kinds
  | all
  deriving DecidableEq, Repr

/-- How names are quoted. -/
inductive Quotes where
  | literal
  | hidden
  | escaped
  | doubled
  | shell
  | shellAlways
  /-- In single quotes where there is need, but without escapes. -/
  | single
  deriving DecidableEq, Repr

/-- How the sizes of files are written. -/
inductive Units where
  | bytes
  | powers (base : Nat)
  deriving DecidableEq, Repr

/-- All that options ask for. -/
structure Style where
  call : Call
  layout : Layout := .single
  sortedBy : SortedBy := .name
  reversed : Bool := false
  directoriesFirst : Bool := false
  marks : Marks := .none
  quotes : Quotes := .literal
  units : Units := .bytes
  /-- Hidden files are shown, and those that stand for the directory and the one above it. -/
  showsHidden : Bool := false
  showsDots : Bool := false
  /-- Names of files that are not shown. -/
  ignored : List String := []
  asThemselves : Bool := false
  deep : Bool := false
  /-- Links are followed: never, where arguments name them, or always. -/
  follows : Option Bool := none
  showsOwner : Bool := true
  showsGroup : Bool := true
  showsAuthor : Bool := false
  showsBlocks : Bool := false
  showsNumber : Bool := false
  byNumbers : Bool := false
  timeStyle : Option String := none
  width : Nat := 80
  tab : Nat := 8
  stop : String := "\n"
  now : Int := 0

/-- A file that is listed. -/
structure Item where
  name : String
  node : NodeId
  /-- Where it leads, if it is a link: the path, and what there is. -/
  leadsTo : Option (String × Option NodeId) := none

/-- What a file is, by its letter and its mark. -/
def letterOf (tree : FileTree) (id : NodeId) : Char × String :=
  match tree.content id with
  | .directory .. => ('d', "/")
  | .file _ | .program _ => ('-', if (tree.node id).rights &&& 73 != 0 then "*" else "")
  | .link _ => ('l', "@")
  | .device _ => ('c', "")
  | .queue _ => ('p', "|")

/-- The size of a file in bytes. -/
def sizeIn (tree : FileTree) (id : NodeId) : Nat :=
  match tree.content id with
  | .directory .. => 4096
  | .file bytes => bytes.size
  | .program _ => 125688
  | .link path => path.length
  | .device _ | .queue _ => 0

/-- How many blocks of 1024 bytes a file takes. -/
def blocksIn (tree : FileTree) (id : NodeId) : Nat :=
  match tree.content id with
  | .directory .. | .file _ | .program _ => (sizeIn tree id + 4095) / 4096 * 4
  | _ => 0

/-- The mark behind a name. -/
def mark (style : Style) (tree : FileTree) (id : NodeId) : String :=
  let found := (letterOf tree id).2
  match style.marks with
  | .none => ""
  | .directories => if found = "/" then found else ""
  | .kinds => if found = "*" then "" else found
  | .all => found

/-- A name with escapes for what cannot be printed. -/
def escapedName (call : Call) (between : Bool) (name : String) : String :=
  String.join ((call.charset.spelt name.toList).map fun unit =>
    match Quotation.escape? unit, unit.char with
    | some escape, _ => escape
    | none, some '\\' => "\\\\"
    | none, some ' ' => if between then " " else "\\ "
    | none, some '"' => if between then "\\\"" else "\""
    | none, _ => unit.octets)

/-- A name as it is shown. -/
def nameText (style : Style) (name : String) : String :=
  let charset := style.call.charset
  match style.quotes with
  | .literal => name
  | .hidden => String.join ((charset.spelt name.toList).map fun unit =>
      if (Quotation.escape? unit).isSome then "?" else unit.octets)
  | .escaped => escapedName style.call false name
  | .doubled => "\"" ++ escapedName style.call true name ++ "\""
  | .shell => Quotation.forShell charset name
  | .shellAlways => Quotation.always charset name
  | .single =>
    let plain := Quotation.forShell charset name
    if plain == name || name.contains '\'' then plain else "'" ++ name ++ "'"

/-- How many columns a text takes. -/
def widthOf (style : Style) (text : String) : Nat :=
  (style.call.charset.spelt text.toList).foldl (fun sum unit =>
    sum + unit.char.elim 0 Text.width) 0

/-- A size with a letter for its unit: of less than ten units, with one place. -/
def withUnit (base : Nat) (size : Nat) : String :=
  if size < base then toString size
  else
    let rec go : List Char → Nat → String
      | [], _ => toString size
      | letter :: rest, unit =>
        let tenths := (size * 10 + unit - 1) / unit
        let whole := (size + unit - 1) / unit
        if tenths < 100 then
          toString (tenths / 10) ++ "." ++ toString (tenths % 10) ++ letter.toString
        else if whole < base || rest.isEmpty then toString whole ++ letter.toString
        else go rest (unit * base)
    go (if base = 1000 then "kMGTPE".toList else "KMGTPE".toList) base

/-- A size as it is shown. -/
def sizeText (style : Style) (size : Nat) : String :=
  match style.units with
  | .bytes => toString size
  | .powers base => withUnit base size

/-- A number of blocks as it is shown. -/
def blocksText (style : Style) (blocks : Nat) : String :=
  match style.units with
  | .bytes => toString blocks
  | .powers base => withUnit base (blocks * 1024)

/-- The time at which a file was changed. -/
def timeText (style : Style) (changed : Int) : String :=
  let moment := Moment.ofNanos changed
  let halfYear : Int := 31556952 / 2 * Calendar.billion
  let isRecent := style.now - halfYear < changed && changed ≤ style.now
  match style.timeStyle with
  | none => moment.inFormat (if isRecent then "%b %e %H:%M" else "%b %e  %Y")
  | some "full-iso" => moment.inFormat "%Y-%m-%d %H:%M:%S.%N %z"
  | some "long-iso" => moment.inFormat "%Y-%m-%d %H:%M"
  | some "iso" => moment.inFormat (if isRecent then "%m-%d %H:%M" else "%Y-%m-%d ")
  | some "locale" => moment.inFormat (if isRecent then "%b %e %H:%M" else "%b %e  %Y")
  | some format =>
    let formats := Text.splitOn '\n' format.toList
    moment.inFormat (String.ofList (match formats with
      | [old, recent] => if isRecent then recent else old
      | _ => format.toList))

/-- The order of two files. -/
def compare (style : Style) (tree : FileTree) (a b : Item) : Ordering :=
  let byName := Order.bytes a.name.toList b.name.toList
  let found := match style.sortedBy with
    | .name | .nothing => byName
    | .time =>
      (Ord.compare (tree.node b.node).changed (tree.node a.node).changed).then byName
    | .size => (Ord.compare (sizeIn tree b.node) (sizeIn tree a.node)).then byName
    | .ending =>
      let ending (name : String) : List Char :=
        let chars := name.toList.reverse
        if chars.contains '.' then '.' :: (chars.takeWhile (· != '.')).reverse else []
      (Order.bytes (ending a.name) (ending b.name)).then byName
    | .version => Order.version a.name.toList b.name.toList
    | .width => (Ord.compare (widthOf style a.name) (widthOf style b.name)).then byName
  if style.reversed then found.swap else found

/-- Files in the order in which they are shown. -/
def sorted (style : Style) (tree : FileTree) (items : List Item) : List Item :=
  let inOrder := if style.sortedBy = .nothing then items
    else items.mergeSort fun a b => compare style tree a b != .gt
  if style.directoriesFirst then
    let isDir (item : Item) : Bool := tree.isDirectory item.node ||
      (item.leadsTo.bind (·.2)).any tree.isDirectory
    inOrder.filter isDir ++ inOrder.filter (!isDir ·)
  else inOrder

/-- A name with its mark. -/
def markedName (style : Style) (tree : FileTree) (item : Item) : String :=
  nameText style item.name ++ mark style tree item.node

/-- The greatest width of texts. -/
def widest (texts : List String) : Nat :=
  texts.foldl (fun width text => max width text.length) 0

/-- What stands before a name in every layout: the number of the file, and its size in blocks. -/
def before (style : Style) (tree : FileTree) (items : List Item) (item : Item) : String :=
  let column (isShown : Bool) (text : Item → String) : String :=
    let width := match style.layout with
      | .commas => 0
      | _ => widest (items.map text)
    if isShown then padLeft width (text item) ++ " " else ""
  column style.showsNumber (fun item => toString (131072 + item.node)) ++
    column style.showsBlocks (fun item => blocksText style (blocksIn tree item.node))

/-- Files with all that is known of them, a line for each, in columns that are wide enough for all
`peers`. -/
def longLines (style : Style) (tree : FileTree) (peers items : List Item) : String :=
  let owner := if style.byNumbers then "0" else "root"
  let names (item : Item) : String := toString (tree.node item.node).names
  let isDevice (item : Item) : Bool := (letterOf tree item.node).1 == 'c'
  let size (item : Item) : String :=
    if isDevice item then "1, 3" else sizeText style (sizeIn tree item.node)
  let namesWidth := widest (peers.map names)
  let sizeWidth := widest (peers.map size)
  let line (item : Item) : String :=
    let node := tree.node item.node
    let leads := match item.leadsTo with
      | some (path, found) => " -> " ++ nameText style path ++ found.elim "" (mark style tree)
      | none => mark style tree item.node
    before style tree peers item ++ (letterOf tree item.node).1.toString ++
      rightsText node.rights ++ " " ++ padLeft namesWidth (names item) ++ " " ++
      (if style.showsOwner then owner ++ " " else "") ++
      (if style.showsGroup then owner ++ " " else "") ++
      (if style.showsAuthor then owner ++ " " else "") ++
      padLeft sizeWidth (size item) ++ " " ++ timeText style node.changed ++ " " ++
      nameText style item.name ++ leads ++ style.stop
  String.join (items.map line)

/-- Blanks from one column to another, with tabs where they reach. -/
def indent (tab : Nat) : (count : Nat) → (start stop : Nat) → String
  | 0, _, _ => ""
  | count + 1, start, stop =>
    if stop ≤ start then ""
    else if tab != 0 && (start + 1) / tab < stop / tab then
      "\t" ++ indent tab count (start + tab - start % tab) stop
    else " " ++ indent tab count (start + 1) stop

/-- The widths of so many columns, if the names fit. -/
def columnWidths (style : Style) (widths : List Nat) (columns : Nat) : Option (List Nat) :=
  let rows := (widths.length + columns - 1) / columns
  let place (i : Nat) : Nat := if style.layout = .columns then i / rows else i % columns
  let grown := widths.zipIdx.foldl (fun (found : Array Nat) (width, i) =>
    let column := place i
    let needed := width + (if column + 1 = columns then 0 else 2)
    found.modify column (max needed)) (Array.replicate columns 3)
  let isGrown := grown.any (3 < ·)
  if !isGrown || grown.foldl (· + ·) 0 < style.width then some grown.toList else none

/-- Names in columns. -/
def inColumns (style : Style) (names : List String) : String :=
  let widths := names.map (widthOf style)
  let most := min names.length ((style.width + 2) / 3)
  let tries := (List.range most).reverse.map (· + 1)
  let columns := (tries.find? fun columns =>
    columns = 1 || (columnWidths style widths columns).isSome).getD 1
  let columnWidth := (columnWidths style widths columns).getD [0]
  let rows := (names.length + columns - 1) / columns
  let cell (row column : Nat) : Option (String × Nat) :=
    let i := if style.layout = .columns then column * rows + row else row * columns + column
    match names[i]?, widths[i]? with
    | some name, some width => some (name, width)
    | _, _ => none
  let line (row : Nat) : String :=
    let cells := (List.range columns).filterMap (cell row)
    let (text, _, _) := (cells.zip columnWidth).foldl (fun (text, start, reached) cell =>
      let ((name, width), column) := cell
      let gap := indent style.tab style.width.succ reached start
      (text ++ (if reached = 0 && start = 0 then "" else gap) ++ name, start + column,
        start + width)) ("", 0, 0)
    text ++ style.stop
  String.join ((List.range rows).map line)

/-- Names with commas between them, in lines that are not too long. -/
def withCommas (style : Style) (names : List String) : String :=
  let (text, _) := names.zipIdx.foldl (fun (text, column) (name, i) =>
    let width := widthOf style name
    if i = 0 then (name, width)
    else if style.width = 0 || column + width + 2 < style.width then
      (text ++ ", " ++ name, column + 2 + width)
    else (text ++ ",\n" ++ name, width)) ("", 0)
  text ++ style.stop

/-- Files as they are listed, with others as their `peers`. -/
def itemsText (style : Style) (tree : FileTree) (peers items : List Item) : String :=
  if items.isEmpty then ""
  else
    let names := items.map fun item => before style tree peers item ++ markedName style tree item
    match style.layout with
    | .single => String.join (names.map (· ++ style.stop))
    | .long => longLines style tree peers items
    | .columns | .rows =>
      if style.width = 0 then "  ".intercalate names ++ style.stop else inColumns style names
    | .commas => withCommas style names

/-- A file by its name, in a directory. -/
def itemIn (style : Style) (tree : FileTree) (dir : NodeId) (name : String) : Option Item :=
  match tree.find dir name false with
  | .error _ => none
  | .ok id =>
    let found := (tree.find dir name).toOption
    match tree.link? id, style.follows with
    | some path, some true => some (found.elim ⟨name, id, some (path, none)⟩ (⟨name, ·, none⟩))
    | some path, _ => some ⟨name, id, some (path, found)⟩
    | none, _ => some ⟨name, id, none⟩

/-- The name is shown. -/
def isShown (style : Style) (name : String) : Bool :=
  (style.showsHidden || !name.startsWith ".") &&
    !style.ignored.any fun pattern => (Pattern.ofText pattern).accepts name

/-- What a directory holds, as it is listed. -/
def directoryText (style : Style) (tree : FileTree) (dir : NodeId) : String × List Item :=
  let dots := if style.showsDots then
      [(".", dir), ("..", tree.parent dir)].map fun (name, id) => (⟨name, id, none⟩ : Item)
    else []
  let inner := ((tree.children dir).filter (isShown style)).filterMap (itemIn style tree dir)
  let dots := dots.filter fun item => !style.ignored.any fun pattern =>
    (Pattern.ofText pattern).accepts item.name
  let items := sorted style tree (dots ++ inner)
  let blocks := items.foldl (fun sum item => sum + blocksIn tree item.node) 0
  let total := if style.layout = .long || style.showsBlocks then
      "total " ++ blocksText style blocks ++ style.stop
    else ""
  (total ++ itemsText style tree items items, inner)

/-- Lists directories with titles, and those in them if that is asked for. They may be nested `depth`
deep. -/
def sections (style : Style) (tree : FileTree) (titled : Bool) : (depth : Nat) →
    List (String × NodeId) → List String
  | 0, _ => []
  | depth + 1, dirs => dirs.flatMap fun (path, dir) =>
    let (text, inner) := directoryText style tree dir
    let title := if titled then path ++ ":" ++ style.stop else ""
    let below := if !style.deep then [] else
      (sorted style tree inner).filterMap fun item =>
        if tree.isDirectory item.node && item.name != "." && item.name != ".." then
          some (FilePath.join path item.name, item.node)
        else none
    (title ++ text) :: sections style tree titled depth below

/-- The options that the tool knows. -/
def options : String :=
  "a,all A,almost-all b,escape B,ignore-backups c C d,directory f F,classify? ,file-type g " ++
  "G,no-group h,human-readable H,dereference-command-line i,inode k,kibibytes l L,dereference m " ++
  "n,numeric-uid-gid N,literal o p q,hide-control-chars Q,quote-name r,reverse R,recursive s,size " ++
  "S t u U v w,width= x X Z,context 1 I,ignore= T,tabsize= ,full-time ,group-directories-first " ++
  ",hide= ,indicator-style= ,quoting-style= ,show-control-chars ,si ,sort= ,time= ,time-style= " ++
  ",color? ,format= ,author ,block-size= ,dereference-command-line-symlink-to-dir ,hyperlink? " ++
  "D,dired ,zero"

/-- The layout that options ask for. -/
def layoutOf (call : Call) (given : Given) (plain : Layout) : Act Layout := do
  given.foldlM (fun layout (key, value) => do
    match key with
    | "l" | "g" | "o" | "n" | "full-time" => return .long
    | "C" => return .columns
    | "x" => return .rows
    | "m" => return .commas
    | "1" => return if layout = .long then .long else .single
    | "zero" => return if layout = .long then .long else .single
    | "format" => choose call "--format" [("verbose", Layout.long), ("long", .long),
        ("commas", .commas), ("horizontal", .rows), ("across", .rows), ("vertical", .columns),
        ("single-column", .single)] value
    | _ => return layout) plain

/-- What options order files by. -/
def orderOf (call : Call) (given : Given) (isLong : Bool) : Act SortedBy := do
  let times ← (given.values "time").mapM (choose call "--time" [("atime", "u"), ("access", "u"),
    ("use", "u"), ("ctime", "c"), ("status", "c"), ("birth", "w"), ("creation", "w"),
    ("mtime", "t"), ("modification", "t")])
  let start := if (given.has "c" || given.has "u" || !times.isEmpty) && !isLong then
    SortedBy.time else .name
  given.foldlM (fun found (key, value) => do
    match key with
    | "t" => return .time
    | "S" => return .size
    | "X" => return .ending
    | "v" => return .version
    | "U" | "f" => return .nothing
    | "sort" => choose call "--sort" [("none", SortedBy.nothing), ("time", .time), ("size", .size),
        ("extension", .ending), ("version", .version), ("width", .width)] value
    | _ => return found) start

/-- The marks and the quotes that options ask for. -/
def marksOf (call : Call) (given : Given) : Act (Marks × Quotes) := do
  let whens := [("always", 1), ("yes", 1), ("force", 1), ("never", 0), ("no", 0), ("none", 0),
    ("auto", 2), ("tty", 2), ("if-tty", 2)]
  given.foldlM (fun (marks, quotes) (key, value) => do
    match key with
    | "F" =>
      let when_ ← if value.isEmpty then pure 1 else choose call "--classify" whens value
      return (if when_ = 1 then .all else marks, quotes)
    | "p" => return (.directories, quotes)
    | "file-type" => return (.kinds, quotes)
    | "indicator-style" =>
      return (← choose call "--indicator-style" [("none", Marks.none), ("slash", .directories),
        ("file-type", .kinds), ("classify", .all)] value, quotes)
    | "q" => return (marks, if quotes = .literal then .hidden else quotes)
    | "b" => return (marks, .escaped)
    | "Q" => return (marks, .doubled)
    | "N" | "zero" => return (marks, .literal)
    | "quoting-style" =>
      return (marks, ← choose call "--quoting-style" [("literal", Quotes.literal),
        ("shell", .single), ("shell-always", .shellAlways), ("shell-escape", .shell),
        ("shell-escape-always", .shellAlways), ("c", .doubled), ("c-maybe", .doubled),
        ("escape", .escaped), ("locale", .doubled), ("clocale", .doubled)] value)
    | "color" =>
      let _ ← if value.isEmpty then pure 1 else choose call "--color" whens value
      return (marks, quotes)
    | _ => return (marks, quotes)) (.none, .literal)

/-- All that options ask for. -/
def styleOf (call : Call) (given : Given) (plain : Layout) (quotes : Quotes) : Act Style := do
  let layout ← layoutOf call given plain
  let sortedBy ← orderOf call given (layout = .long)
  let (marks, asked) ← marksOf call given
  let number (option : String) (problem : String) : Act (Option Nat) := do
    match given.value? option with
    | none => return none
    | some text =>
      match Quantity.read [] Quantity.mostUnsigned text with
      | .ok value => return some value
      | .error _ => call.giveUp (problem ++ ": " ++ call.quoted text)
  let width ← number "w" "invalid line width"
  let tab ← number "T" "invalid tab size"
  let fromVariable := (call.environment.lookup "COLUMNS").bind (·.toNat?)
  let now ← Act.view (·.clock)
  if let some style := given.value? "time-style" then
    let isKnown := style.startsWith "+" || ["full-iso", "long-iso", "iso", "locale"].any fun known =>
      style == known || style == "posix-" ++ known
    if !isKnown then
      call.dismiss ("invalid argument " ++ call.quoted style ++ " for " ++ call.quoted "time style" ++
        "\nValid arguments are:\n  - [posix-]full-iso\n  - [posix-]long-iso\n  - [posix-]iso\n" ++
        "  - [posix-]locale\n  - +FORMAT (e.g., +%H:%M) for a 'date'-style format")
  let timeStyle := if given.has "full-time" then some "full-iso"
    else match given.value? "time-style" with
      | some style => if style.startsWith "posix-" then none else
          some (if style.startsWith "+" then (style.drop 1).toString else style)
      | none => none
  let hidden := given.last? ["a", "A", "f"]
  let long := layout == .long
  let follows := match given.last? ["L", "H", "dereference-command-line-symlink-to-dir"] with
    | some "L" => some true
    | some _ => some false
    | none => if given.has "d" || given.has "F" || long then none else some false
  return {
    call, layout, sortedBy, reversed := given.has "r" && sortedBy != .nothing
    directoriesFirst := given.has "group-directories-first"
    marks, quotes := if asked = .literal && !given.has "N" then quotes else asked
    units := match given.last? ["h", "si"] with
      | some "h" => .powers 1024
      | some _ => .powers 1000
      | none => .bytes
    showsHidden := hidden.isSome, showsDots := hidden == some "a" || hidden == some "f"
    ignored := given.values "I" ++ (if given.has "B" then ["*~", ".*~"] else []) ++
      (if hidden.isSome then [] else given.values "hide")
    asThemselves := given.has "d", deep := given.has "R" && !given.has "d", follows
    showsOwner := !given.has "g", showsGroup := !given.has "o" && !given.has "G"
    showsAuthor := given.has "author"
    showsBlocks := given.has "s", showsNumber := given.has "i", byNumbers := given.has "n"
    timeStyle, width := width.getD (fromVariable.getD 80), tab := tab.getD 8
    stop := if given.has "zero" then "\x00" else "\n", now }

/-- Lists files and what directories hold. -/
def tool (plain : Layout) (quotes : Quotes) : Tool := fun call =>
  withOptions options (fun given paths call => do
    let call := { call with trouble := 2 }
    let style ← styleOf call given plain quotes
    let found ← (if paths.isEmpty then ["."] else paths).mapM fun path => do
      let node ← Act.viewTree fun tree dir => do
        let own ← tree.find dir path false
        let item : Item := match tree.link? own with
          | some target => ⟨path, own, some (target, (tree.find dir path).toOption)⟩
          | none => ⟨path, own, none⟩
        match item.leadsTo, style.follows with
        | none, _ | _, none => return item
        | some _, some true => return ⟨path, ← tree.find dir path, none⟩
        | some (_, found), some false =>
          match found with
          | some id =>
            if tree.isDirectory id || given.has "H" then return ⟨path, id, none⟩
            else return item
          | none => return item
      return (path, node)
    for (path, node) in found do
      if let .error e := node then
        call.complain ("cannot access " ++ call.path path ++ ": " ++ e.description)
    let tree ← Act.view (·.tree)
    let there := sorted style tree (found.filterMap fun (_, node) => node.toOption)
    let isListed (item : Item) : Bool := tree.isDirectory item.node && !style.asThemselves
    let files := there.filter (!isListed ·)
    let dirs := (there.filter isListed).map fun item => (item.name, item.node)
    let titled := 1 < found.length || style.deep
    let shownDirs := sections style tree titled maxNesting dirs
    let shown := (if files.isEmpty then [] else [itemsText style tree there files]) ++ shownDirs
    call.print (style.stop.intercalate shown)
    return if found.any fun (_, node) => !node.toBool then 2 else 0)
    { call with trouble := 2 }

end Listing

end StagedBuild.Script.Tools
