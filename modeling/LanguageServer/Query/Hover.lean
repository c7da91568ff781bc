import LanguageServer.Query.Basic

/-!
# Hover

What is shown about the word under the cursor.

* An attribute shows its documentation.
* A dotted word shows its entry in the table of the document; failing that the standard library is
  asked for the whole word, and then for its last segment.
* A plain word shows its entry in the table if it is declared somewhere, and otherwise what the
  standard library has to say about it.
-/

namespace LanguageServer

/-- The hover text of an entry. -/
def SymbolEntry.hover (entry : SymbolEntry) : String :=
  markdownSignature entry.label entry.documentation

namespace Query

/-- The hover text of a dotted word. -/
def hoverDotted? (library : Library) (table : SymbolTable) (word : String) : Option String :=
  ((table.get? word).map SymbolEntry.hover).or
    ((library.hover? word).or (library.hover? (QualifiedName.mk word).last))

/-- The hover text of a word without a dot. -/
def hoverPlain? (library : Library) (table : SymbolTable) (word : String) : Option String :=
  (((table.get? word).filter (·.location.isSome)).map SymbolEntry.hover).or (library.hover? word)

/-- The hover text of a word. -/
def hoverWord? (snapshot : Snapshot) (word : String) : Option String :=
  if word.toList.head? = some '@' then snapshot.library.hover? word
  else if word.toList.contains '.' then hoverDotted? snapshot.library snapshot.table word
  else hoverPlain? snapshot.library snapshot.table word

/-- The hover text at a position. -/
def hover? (snapshot : Snapshot) (position : Position) : Option String :=
  (word? snapshot.text position).bind (hoverWord? snapshot)

end Query

end LanguageServer
