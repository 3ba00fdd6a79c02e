import AnalysisEngines.Files.Path
import AnalysisEngines.Text.Quoted
import AnalysisEngines.Text.Utf8

/-!
Reading files of a working directory.

A directory tree is a list of paths, each a file with its bytes or a directory.  Reading walks a
path part by part, so that `..` leads out only of a directory that is there.
-/

set_option autoImplicit false

namespace AnalysisEngines

inductive FileFault where
  | notFound (path : String)
  | notADirectory (path : String)
  | isADirectory (path : String)
  | nameTooLong (path : String)
  deriving DecidableEq

namespace FileFault

def number : FileFault → Nat
  | .notFound _ => 2
  | .notADirectory _ => 20
  | .isADirectory _ => 21
  | .nameTooLong _ => 36

def reason : FileFault → String
  | .notFound _ => "No such file or directory"
  | .notADirectory _ => "Not a directory"
  | .isADirectory _ => "Is a directory"
  | .nameTooLong _ => "File name too long"

def path : FileFault → String
  | .notFound path | .notADirectory path | .isADirectory path | .nameTooLong path => path

def message (fault : FileFault) : String :=
  "[Errno " ++ toString fault.number ++ "] " ++ fault.reason ++ ": " ++ Text.quoted fault.path

end FileFault

inductive TextFault where
  | file (fault : FileFault)
  | zeroInPath
  | encoding (error : Utf8.DecodeError)

def Utf8.Fault.reason : Utf8.Fault → String
  | .badStart => "invalid start byte"
  | .badContinuation => "invalid continuation byte"
  | .truncated => "unexpected end of data"

def Utf8.DecodeError.message (error : Utf8.DecodeError) : String :=
  "'utf-8' codec can't decode " ++
    (if error.length = 1 then
      "byte 0x" ++ Text.hexDigits 2 error.byte.toNat ++ " in position " ++
        toString error.position
    else
      "bytes in position " ++ toString error.position ++ "-" ++
        toString (error.position + error.length - 1)) ++
    ": " ++ error.fault.reason

def TextFault.message : TextFault → String
  | .file fault => fault.message
  | .zeroInPath => "embedded null byte"
  | .encoding error => error.message

structure Files where
  /-- Normalized paths; directories have no bytes. -/
  entries : List (String × Option Bytes) := []
  deriving Inhabited

namespace Files

def ofList (entries : List (String × Option Bytes)) : Files :=
  ⟨entries.map fun entry => (Path.normalize entry.1, entry.2)⟩

inductive Node where
  | file (content : Bytes)
  | directory

/-- What plain parts lead to from a root; the last entry of a path counts. -/
def node? (files : Files) (root : String) (parts : List String) : Option Node :=
  if parts.all (· == "..") then some .directory
  else
    let path := root ++ "/".intercalate parts
    match files.entries.reverse.find? fun entry => entry.1 == path with
    | some (_, some content) => some (.file content)
    | some (_, none) => some .directory
    | none =>
        if files.entries.any fun entry => (path ++ "/").isPrefixOf entry.1 then some .directory
        else none

/-- The directory above one.  Nothing is above the root `/`. -/
def above (root : String) (here : List String) : List String :=
  if root = "" && here.all (· == "..") then here ++ [".."] else here.dropLast

inductive LookupFault where
  | notFound
  | notADirectory
  | nameTooLong

def longestName : Nat := 255

/-- Walks the parts of a path from a directory on. -/
def walk (files : Files) (root : String) (here : List String) :
    List String → Except LookupFault Node
  | [] => .ok .directory
  | part :: rest =>
      if part = ".." then walk files root (above root here) rest
      else if longestName < part.utf8ByteSize then .error .nameTooLong
      else
        let next := here ++ [part]
        match files.node? root next with
        | none => .error .notFound
        | some .directory => walk files root next rest
        | some (.file content) =>
            if rest.isEmpty then .ok (.file content) else .error .notADirectory

def lookup (files : Files) (path : String) : Except LookupFault Node :=
  files.walk (Path.root path) [] (Path.parts path)

/-- The path that a walk ends at. -/
def destination (path : String) : String :=
  let root := Path.root path
  root ++ "/".intercalate ((Path.parts path).foldl (fun here part =>
    if part = ".." then above root here else here ++ [part]) [])

def faultAt (path : String) : LookupFault → FileFault
  | .notFound => .notFound path
  | .notADirectory => .notADirectory path
  | .nameTooLong => .nameTooLong path

/-- The bytes of a file. -/
def read (files : Files) (path : String) : Except FileFault Bytes :=
  match files.lookup path with
  | .ok (.file content) => .ok content
  | .ok .directory => .error (.isADirectory path)
  | .error fault => .error (faultAt path fault)

/-- Whether a path leads anywhere; a name that is too long is no answer. -/
def exists? (files : Files) (path : String) : Except FileFault Bool :=
  if path.toList.contains '\x00' then .ok false
  else match files.lookup path with
    | .ok _ => .ok true
    | .error .nameTooLong => .error (.nameTooLong path)
    | .error _ => .ok false

/-- Line ends as single line feeds. -/
def unifyLineEnds : List Char → List Char
  | [] => []
  | '\r' :: '\n' :: rest => '\n' :: unifyLineEnds rest
  | '\r' :: rest => '\n' :: unifyLineEnds rest
  | c :: rest => c :: unifyLineEnds rest

/-- The text of a file, with line ends unified. -/
def readText (files : Files) (path : String) : Except TextFault String :=
  if path.toList.contains '\x00' then .error .zeroInPath
  else match files.read path with
    | .error fault => .error (.file fault)
    | .ok content =>
        match Utf8.decode content with
        | .error error => .error (.encoding error)
        | .ok text => .ok (String.ofList (unifyLineEnds text.toList))

end Files

end AnalysisEngines
