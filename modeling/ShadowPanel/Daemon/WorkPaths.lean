import ShadowPanel.Data.CleanPaths
import ShadowPanel.Data.Replacement
import ShadowPanel.Upload.Session
import ShadowPanel.Validation

namespace ShadowPanel.Daemon

open ShadowPanel.Data ShadowPanel.Upload ShadowPanel.Validation

/-! Paths of files of a server: what the file manager accepts, the full path of an upload and
the path that the daemon is sent, of `internal/api/filemanager/filemanagerpath/path.go`,
`internal/api/filemanager/uploadsession/createsession/handler.go` and
`internal/daemon/file.go`. -/

inductive PathError where
  | pathContainsTraversal
  | pathContainsNullByte
  | pathContainsBackslash
  | filenameEmpty
  | filenameContainsTraversal
  | filenameContainsPathSeparator
  deriving DecidableEq

def PathError.message : PathError → String
  | .pathContainsTraversal => "path contains invalid directory traversal"
  | .pathContainsNullByte => "path contains a null byte"
  | .pathContainsBackslash => "path contains a backslash"
  | .filenameEmpty => "filename is empty"
  | .filenameContainsTraversal => "filename contains invalid directory traversal"
  | .filenameContainsPathSeparator => "filename contains path separators"

def validatePath (path : List Char) : Except PathError Unit :=
  if path = [] then .ok ()
  else if '\x00' ∈ path then .error .pathContainsNullByte
  else if '\\' ∈ path then .error .pathContainsBackslash
  else
    let rel := trimPrefix ['/'] path
    if rel = [] then .ok ()
    else if ['.', '.'] ∈ rel.splitOn '/' then .error .pathContainsTraversal
    else .ok ()

def validateFilename (filename : List Char) : Except PathError Unit :=
  if filename = [] then .error .filenameEmpty
  else if occursIn ['.', '.'] filename then .error .filenameContainsTraversal
  else if '/' ∈ filename ∨ '\\' ∈ filename then .error .filenameContainsPathSeparator
  else .ok ()

def hasDrive : List Char → Bool
  | letter :: ':' :: _ => isASCIILetter letter
  | _ => false

def dropDrive (text : List Char) : List Char := if hasDrive text then text.drop 2 else text

def withoutDrive (rel : List Char) : List Char :=
  let rel := (dropDrive rel).dropWhile (· = '/')
  if rel = [] then ['.'] else rel

def stripWorkPath (workPath fullPath : List Char) : List Char :=
  withoutDrive (trimPrefix (slashes workPath) (slashes fullPath))

def targetPath (workPath dir path name : List Char) : List Char :=
  joinPaths [workPath, dir, path, name]

end ShadowPanel.Daemon
