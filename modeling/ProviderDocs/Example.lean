import ProviderDocs.Report
import ProviderDocs.Snippet.Format

/-!
# Examples of use

An example section is prose and fenced code in turn.  Each fenced block makes one example: the first
line of the prose above it is the title, the rest of that prose the body, and the code is formatted.
`readExamples` reads a section, and `writeExamples` writes examples out again.
-/

namespace ProviderDocs

/-- One example. -/
structure Example where
  title : Text
  body : Text
  code : Text
deriving DecidableEq, Repr

/-- The characters that fence code off. -/
def fence : Text :=
  "```".toList

/-- Whether a line of prose opens a fenced block; a language or a title may follow the fence. -/
def opensFence (line : Text) : Bool :=
  match List.isPrefixOf? fence (line.dropWhile isSpaceOrTab) with
  | some rest => !rest.contains '`'
  | none => false

/-- Whether a line of code closes the fenced block. -/
def closesFence (line : Text) : Bool :=
  Text.lineContent line == fence

/-! ### Reading -/

/-- The lines of prose above a fenced block, and the lines inside it. -/
structure FencedBlock where
  prose : List Text
  code : List Text
deriving DecidableEq, Repr

/-- The fenced blocks of some lines and the lines below the last of them, unless a block is not
closed.  The lines follow the prose, and inside a block also the code, that was read before. -/
def fencedBlocksAfter (prose : List Text) (code : Option (List Text)) :
    List Text → Option (List FencedBlock × List Text)
  | [] => if code.isSome then none else some ([], prose)
  | line :: rest =>
    match code with
    | none =>
      if opensFence line then fencedBlocksAfter prose (some []) rest
      else fencedBlocksAfter (prose ++ [line]) none rest
    | some code =>
      if closesFence line then
        (fencedBlocksAfter [] none rest).map fun read => (⟨prose, code⟩ :: read.1, read.2)
      else fencedBlocksAfter prose (some (code ++ [line])) rest

/-- The fenced blocks of some lines and the lines below the last of them, unless a block is not
closed. -/
def fencedBlocks? (lines : List Text) : Option (List FencedBlock × List Text) :=
  fencedBlocksAfter [] none lines

/-- The example that a fenced block makes. -/
def FencedBlock.toExample (block : FencedBlock) : Example :=
  match Text.splitLines (Text.trim (Text.joinLines block.prose)) with
  | [] => ⟨[], [], Snippet.format (Text.joinLines block.code)⟩
  | title :: body =>
    { title := Text.trim title
      body := Text.trim (Text.joinLines body)
      code := Snippet.format (Text.joinLines block.code) }

/-- Reads the examples of an entity.  Prose below the last fenced block is dropped with a warning,
and where code is required there has to be a block. -/
def readExamples (entity : Text) (requireCode : Bool) (t : Text) : Report (List Example) :=
  match fencedBlocks? (Text.splitLines t) with
  | none => throw (.unterminatedFence entity)
  | some (blocks, rest) => do
    if !Text.isBlank (Text.joinLines rest) then warn (.trailingProse entity)
    if requireCode && blocks.isEmpty then throw (.missingCodeBlock entity)
    return blocks.map FencedBlock.toExample

/-! ### Writing -/

/-- An example written out: a heading, the body and the code between fences. -/
def Example.write (e : Example) : Text :=
  Text.joinParagraphs
    ((if e.title.isEmpty then [] else ["### ".toList ++ e.title]) ++
      (if e.body.isEmpty then [] else [e.body]) ++
      [Text.joinLines [fence, e.code, fence]])

/-- Examples written out one below the other. -/
def writeExamples (examples : List Example) : Text :=
  Text.trim (Text.joinParagraphs (examples.map Example.write))

end ProviderDocs
