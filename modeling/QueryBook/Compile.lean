import QueryBook.Catalog.Access
import QueryBook.Definition
import QueryBook.Marker
import QueryBook.Notice

/-!
# Compiling a source text

A source text is cut at its markers; every segment that is not blank is a definition.  Text
before the first marker is a definition too unless all its lines are blank or comments, and
then fails at its header.  The queries enter a catalog one by one.  A name that is redefined
either replaces the earlier query, with a notice, or refuses the text.
-/

namespace QueryBook

namespace Source

/-- Some line is neither blank nor a comment. -/
def hasCode (text : List Char) : Bool :=
  (Text.lines text).any fun line => !Text.isBlank line && (Comment.text? line).isNone

/-- The definitions of a text in order, blank ones left out. -/
def definitions (text : List Char) : List (List Char) :=
  let cut := Segmentation.ofText text
  let opening := if hasCode cut.opening then [cut.opening] else []
  (opening ++ cut.segments.map Segment.body).filter fun definition => !Text.isBlank definition

end Source

def isAsciiName (name : String) : Bool :=
  name.toList.all fun c => c.isAlphanum || c = '_'

namespace CompileOptions

/-- The notice due to a name with characters beyond ASCII. -/
def nameNotices (options : CompileOptions) (name : String) : List Notice :=
  if options.warnNonAscii && !isAsciiName name then [.nonAsciiName name] else []

end CompileOptions

def compileDefinition (options : CompileOptions) (text : List Char) :
    Noted CompileError Query :=
  match Query.ofDefinition text with
  | .error e => ⟨[], .error e⟩
  | .ok q => ⟨options.nameNotices q.name, .ok q⟩

namespace Catalog

/-- The notices due to a query that enters a catalog. -/
def entryNotices (c : Catalog) (name : String) : List Notice :=
  (if c.contains name then [.redefined name] else []) ++
    if isReserved name then [.shadowed name] else []

/-- Compiles definitions into a catalog that holds the earlier ones. -/
def extend (options : CompileOptions) : Catalog → List (List Char) →
    Noted CompileError Catalog
  | c, [] => ⟨[.compiled c.size], .ok c⟩
  | c, definition :: rest =>
    let compiled := compileDefinition options definition
    match compiled.outcome with
    | .error e => ⟨compiled.notices, .error e⟩
    | .ok q =>
      if options.onDuplicate = .error ∧ c.contains q.name then
        ⟨compiled.notices, .error (.duplicateName q.name)⟩
      else
        let extended := extend options (c.put q) rest
        ⟨compiled.notices ++ c.entryNotices q.name ++ extended.notices, extended.outcome⟩

def compile (options : CompileOptions) (text : String) : Noted CompileError Catalog :=
  extend options empty (Source.definitions text.toList)

end Catalog

end QueryBook
