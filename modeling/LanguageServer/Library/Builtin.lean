import LanguageServer.Library.Basic

/-!
# The built-in tables

The functions, constants and attributes of the standard library that the server ships with.  The
order of the rows is the order in which they are offered, and decides which of two functions of the
same name a bare word means.
-/

namespace LanguageServer.Library

/-- The functions of the standard library, module by module. -/
def functionRows : List FunctionRow :=
  [ { module := "io", name := "print", parameters := ["value"],
      parameterDocs := ["The value to print to the console."],
      returns := none,
      documentation := "Prints value to stdout followed by a newline." },
    { module := "io", name := "println", parameters := ["value"],
      returns := none,
      documentation := "Alias for `print`. Prints value followed by a newline." },
    { module := "io", name := "print_inline", parameters := ["value"],
      returns := none,
      documentation := "Prints value without a newline." },
    { module := "io", name := "eprint", parameters := ["value"],
      returns := none,
      documentation := "Prints value to stderr without a newline." },
    { module := "io", name := "eprintln", parameters := ["value"],
      returns := none,
      documentation := "Prints value to stderr with a newline." },
    { module := "io", name := "flush", parameters := [],
      returns := none,
      documentation := "Flushes the stdout buffer." },
    { module := "io", name := "eflush", parameters := [],
      returns := none,
      documentation := "Flushes the stderr buffer." },
    { module := "io", name := "readline", parameters := [],
      returns := some "string | null",
      documentation := "Reads a line from stdin. Returns `null` on EOF." },
    { module := "io", name := "read_char", parameters := [],
      returns := some "string",
      documentation := "Reads a single character from stdin." },
    { module := "io", name := "input", parameters := ["prompt"],
      returns := some "string",
      documentation := "Prints prompt, flushes, and reads a line from stdin." },
    { module := "io", name := "clear_screen", parameters := [],
      returns := none,
      documentation := "Clears the terminal using ANSI escape sequences." },
    { module := "io", name := "cursor_home", parameters := [],
      returns := none,
      documentation := "Moves terminal cursor to top-left." },
    { module := "io", name := "move_cursor", parameters := ["x", "y"],
      returns := none,
      documentation := "Moves cursor to position (1-indexed)." },
    { module := "math", name := "abs", parameters := ["x"],
      returns := none,
      documentation := "Returns the absolute value of `x`." },
    { module := "math", name := "sqrt", parameters := ["x"],
      returns := none,
      documentation := "Returns the square root of `x`." },
    { module := "math", name := "pow", parameters := ["base", "exp"],
      parameterDocs := ["The base number.", "The exponent."],
      returns := none,
      documentation := "Returns `base` raised to the power `exp`." },
    { module := "math", name := "clamp", parameters := ["x", "min", "max"],
      parameterDocs := ["The value to clamp.", "The lower bound.", "The upper bound."],
      returns := none,
      documentation := "Clamps `x` between `min` and `max`." },
    { module := "math", name := "randint", parameters := ["min", "max"],
      returns := none,
      documentation := "Returns a random integer in range [min, max] inclusive." },
    { module := "math", name := "sin", parameters := ["rad"],
      returns := none,
      documentation := "Sine (radians)." },
    { module := "math", name := "cos", parameters := ["rad"],
      returns := none,
      documentation := "Cosine (radians)." },
    { module := "math", name := "atan2", parameters := ["y", "x"],
      returns := none,
      documentation := "Two-argument arc tangent." },
    { module := "string", name := "len", parameters := ["s"],
      returns := some "int",
      documentation := "Returns the length of string `s` in **bytes**." },
    { module := "string", name := "char_len", parameters := ["s"],
      returns := some "int",
      documentation := "Returns the length of string `s` in **Unicode characters**." },
    { module := "string", name := "char_at", parameters := ["s", "i"],
      returns := some "string",
      documentation := "Returns character at index `i` (empty if out of bounds)." },
    { module := "string", name := "substr", parameters := ["s", "start", "len"],
      returns := some "string",
      documentation := "Extracts substring starting at char position `start`." },
    { module := "string", name := "contains", parameters := ["s", "needle"],
      returns := some "bool",
      documentation := "Checks if `s` contains `needle`." },
    { module := "string", name := "split", parameters := ["s", "sep"],
      returns := some "string",
      documentation := "Splits `s` by `sep`. Returns newline-separated strings." },
    { module := "string", name := "join", parameters := ["parts", "sep"],
      returns := some "string",
      documentation := "Joins newline-separated `parts` with `sep`." },
    { module := "convert", name := "parse_int", parameters := ["s"],
      returns := some "int | null",
      documentation := "Parses string to int. Supports `0x`, `0o`, `0b` prefixes." },
    { module := "convert", name := "to_string", parameters := ["x"],
      returns := some "string",
      documentation := "Converts any value to its string representation." },
    { module := "convert", name := "to_hex", parameters := ["n"],
      returns := some "string",
      documentation := "Converts integer `n` to a hexadecimal string." },
    { module := "convert", name := "ord", parameters := ["char"],
      returns := some "int",
      documentation := "Returns the Unicode code point of a character." },
    { module := "convert", name := "chr", parameters := ["code"],
      returns := some "string",
      documentation := "Returns character from Unicode code point." },
    { module := "convert", name := "type_of", parameters := ["x"],
      returns := some "string",
      documentation := "Returns the type name as string (\"int\", \"string\", etc.)." },
    { module := "time", name := "now", parameters := [],
      returns := some "float",
      documentation := "Unix timestamp in seconds." },
    { module := "time", name := "timer", parameters := [],
      returns := some "handle",
      documentation := "Creates a high-precision timer handle." },
    { module := "time", name := "elapsed_ms", parameters := ["h"],
      returns := some "float",
      documentation := "Milliseconds since timer `h` was created." },
    { module := "time", name := "sleep", parameters := ["ms"],
      returns := none,
      documentation := "Suspends execution for `ms` milliseconds." },
    { module := "time", name := "iso", parameters := [],
      returns := some "string",
      documentation := "Returns current time in ISO 8601 format." },
    { module := "fs", name := "read_text", parameters := ["path"],
      returns := some "string",
      documentation := "Reads entire file as string. **Requires `--allow-caps=fs`**." },
    { module := "fs", name := "write_text", parameters := ["path", "content"],
      returns := none,
      documentation := "Writes string to file (overwrites). **Requires `--allow-caps=fs`**." },
    { module := "fs", name := "exists", parameters := ["path"],
      returns := some "bool",
      documentation := "Checks if path exists." },
    { module := "fs", name := "readdir", parameters := ["path"],
      returns := some "string",
      documentation := "Lists directory contents as newline-separated string." },
    { module := "net", name := "connect", parameters := ["host", "port"],
      returns := some "handle",
      documentation := "Connects to TCP server. **Requires `--allow-caps=net`**." },
    { module := "net", name := "listen", parameters := ["host", "port"],
      returns := some "handle",
      documentation := "Starts TCP server listening on port. **Requires `--allow-caps=net`**." },
    { module := "net", name := "send", parameters := ["handle", "data"],
      returns := none,
      documentation := "Sends string data over socket." },
    { module := "net", name := "recv_line", parameters := ["handle"],
      returns := some "string",
      documentation := "Receives one line from socket." },
    { module := "bytes", name := "alloc", parameters := ["size"],
      returns := some "handle",
      documentation := "Allocates `size` bytes. Manual memory, must be `free`'d." },
    { module := "bytes", name := "read_u16", parameters := ["buf", "offset"],
      returns := some "int",
      documentation := "Reads 16-bit unsigned int (little-endian)." },
    { module := "bytes", name := "write_u16", parameters := ["buf", "offset", "value"],
      returns := none,
      documentation := "Writes 16-bit unsigned int (little-endian)." },
    { module := "bytes", name := "decode", parameters := ["buf", "offset", "len"],
      returns := some "string",
      documentation := "Decodes UTF-8 bytes from buffer to string." },
    { module := "sys", name := "platform", parameters := [],
      returns := some "string",
      documentation := "Returns OS name (\"linux\", \"macos\", \"windows\")." },
    { module := "sys", name := "arch", parameters := [],
      returns := some "string",
      documentation := "Returns CPU architecture (\"x86_64\", \"aarch64\")." } ]

/-- The constants of the standard library. -/
def constantRows : List ConstantRow :=
  [ { module := "math", name := "PI", value := "3.141592653589793" },
    { module := "math", name := "TAU", value := "6.283185307179586 (2π)" } ]

/-- The attributes that a function may carry. -/
def attributeRows : List Attribute :=
  [ { name := "@no_gc",
      documentation :=
        "### Attribute: `@no_gc`\n---\nSuspends the Garbage Collector for the duration of " ++
        "this function.\n\n**Usage:** Provides access to manual memory primitives like " ++
        "`alloc`, `store`, `load`, and `free` (Value-based) or `std.bytes` (Byte-based). " ++
        "Useful for real-time graphics, audio, or performance-critical loops." },
    { name := "@inline",
      documentation :=
        "### Attribute: `@inline`\n---\nHint to the compiler to substitute the function " ++
        "body at the call site. Respects code size thresholds." },
    { name := "@inline_always",
      documentation :=
        "### Attribute: `@inline_always`\n---\nForces the compiler to inline this function " ++
        "regardless of size. Use with caution." } ]

/-- The standard library that the server ships with. -/
def builtin : Library :=
  ⟨functionRows.map FunctionRow.function, constantRows.map ConstantRow.constant, attributeRows⟩

/-- No key occurs twice in the built-in tables, so they are accepted and describe `builtin`. -/
theorem ofTables_builtin : ofTables functionRows constantRows attributeRows = .ok builtin := by
  have h : duplicate? [] (keys functionRows constantRows attributeRows) = none := by decide +kernel
  simp [ofTables, h, builtin]

end LanguageServer.Library
