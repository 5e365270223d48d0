/-!
# Compiler options

The compiler's command line, read into the settings the rest of the compiler consults.
The flags come after the defaults (`-O2 -std=c11 -fPIC`), so a later flag overrides an
earlier one: `-O0` turns optimization off, `-std=gnu11` selects the GNU dialect.

An option the compiler does not know, or a value it does not accept, fails the compile
step, as the compiler driver rejects it before reading the source. Some options make the
compiler write no object (`--version`, `-fsyntax-only`), or something else than one (`-E`,
`-S`); the link step then has nothing to link.
-/

namespace InlineC.Lang

/-- The revisions of the C standard the compiler knows. -/
inductive Standard where
  | c90 | c94 | c99 | c11 | c17 | c2x
  deriving DecidableEq, Repr, Inhabited

/-- The value of `__STDC_VERSION__` for a revision, none for C90. -/
def Standard.version : Standard → Option String
  | .c90 => none
  | .c94 => some "199409L"
  | .c99 => some "199901L"
  | .c11 => some "201112L"
  | .c17 => some "201710L"
  | .c2x => some "202000L"

/-- Whether a revision is at least C99. -/
def Standard.atLeast99 : Standard → Bool
  | .c90 | .c94 => false
  | _ => true

/-- What the compile step leaves where the object should be. -/
inductive Output where
  /-- An object file. -/
  | object
  /-- Nothing: the compiler only printed something, or only checked the source. -/
  | nothing
  /-- A text file, such as preprocessed source or assembly, that the linker cannot read. -/
  | text
  deriving DecidableEq, Repr, Inhabited

/-- The settings of one compilation. -/
structure Options where
  standard : Standard := .c11
  /-- The GNU dialect: GNU keywords and the traditional system macros. -/
  gnu : Bool := false
  /-- Optimization level, 0 to 3. -/
  optLevel : Nat := 2
  /-- Optimizing for size (`-Os`, `-Oz`). -/
  optSize : Bool := false
  fastMath : Bool := false
  finiteMath : Bool := false
  unsignedChar : Bool := false
  shortWchar : Bool := false
  shortEnums : Bool := false
  /-- `-fpack-struct`: the largest alignment of a structure member. -/
  packStruct : Option Nat := none
  singlePrecisionConstants : Bool := false
  wrapv : Bool := false
  /-- Position-independent code: 0, 1 for `-fpic`, 2 for `-fPIC`. -/
  pic : Nat := 2
  pie : Nat := 0
  trigraphs : Bool := true
  /-- Whether the predefined system macros are given (`-undef` removes them). -/
  systemMacros : Bool := true
  /-- `-D` and `-U` as directive lines, in order. -/
  definitions : List String := []
  /-- Headers read before the source (`-include`, `-imacros`). -/
  forcedIncludes : List String := []
  /-- Libraries named by `-l`. -/
  libraries : List String := []
  /-- The link refuses undefined symbols (`-Wl,--no-undefined`, `-Wl,-z,defs`). -/
  noUndefined : Bool := false
  /-- Warnings enabled by name. -/
  warnings : List String := []
  /-- Warnings disabled by name, overriding groups. -/
  disabled : List String := []
  /-- All warnings are errors (`-Werror`). -/
  allErrors : Bool := false
  /-- Warnings made errors by name. -/
  errorNames : List String := []
  /-- Warnings kept warnings by name (`-Wno-error=`). -/
  noErrorNames : List String := []
  /-- Warnings are suppressed (`-w`). -/
  silent : Bool := false
  pedantic : Bool := false
  pedanticErrors : Bool := false
  /-- What the compile step writes. -/
  output : Output := .object
  /-- The standard headers cannot be found (`-nostdinc`). -/
  noStdInc : Bool := false
  /-- The object is for a 32-bit target the system cannot compile for. -/
  wrongTarget : Bool := false
  /-- A reason the compiler driver rejects the command line. -/
  rejected : Option String := none
  /-- `-fno-builtin`: library functions are not known to the compiler. -/
  noBuiltin : Bool := false
  /-- Tentative definitions are common symbols. -/
  common : Bool := false
  /-- `$` may appear in identifiers. -/
  dollars : Bool := true
  /-- Functions not referred to are kept (`-O0`). -/
  keepUnused : Bool := false
  deriving Repr, Inhabited

namespace Options

/-- Options that take their value as the next word. -/
def separateValue : List String :=
  ["-D", "-U", "-I", "-L", "-l", "-include", "-imacros", "-isystem", "-iquote", "-idirafter",
   "-o", "-x", "-MF", "-MT", "-MQ", "-Xlinker", "-Xassembler", "-Xpreprocessor", "-aux-info",
   "-iprefix", "-iwithprefix", "-iwithprefixbefore", "-isysroot", "-imultilib", "-T", "-u",
   "-z", "-e", "--param", "-wrapper", "-specs"]

/-- The `-f` options the compiler knows, without `no-`. -/
def knownF : List String :=
  ["PIC", "pic", "PIE", "pie", "common", "signed-char", "unsigned-char", "short-wchar",
   "short-enums", "pack-struct", "single-precision-constant", "wrapv", "trapv", "fast-math",
   "finite-math-only", "math-errno", "strict-aliasing", "strict-overflow", "omit-frame-pointer",
   "inline", "inline-functions", "inline-small-functions", "unroll-loops", "unroll-all-loops",
   "builtin", "asm", "gnu89-inline", "stack-protector", "stack-protector-all",
   "stack-protector-strong", "stack-protector-explicit", "stack-clash-protection",
   "cf-protection", "visibility", "function-sections", "data-sections", "exceptions",
   "asynchronous-unwind-tables", "unwind-tables", "plt", "semantic-interposition",
   "diagnostics-color", "diagnostics-show-option", "diagnostics-show-caret", "message-length",
   "max-errors", "syntax-only", "openmp", "openmp-simd", "openacc", "lto", "fat-lto-objects",
   "tree-vectorize", "tree-loop-vectorize", "tree-slp-vectorize", "vect-cost-model",
   "optimize-sibling-calls", "peephole", "peephole2", "schedule-insns", "schedule-insns2",
   "gcse", "ipa-pta", "ipa-cp", "ipa-sra", "ipa-icf", "ipa-ra", "devirtualize",
   "delete-null-pointer-checks", "isolate-erroneous-paths-dereference", "signed-zeros",
   "trapping-math", "rounding-math", "associative-math", "reciprocal-math",
   "unsafe-math-optimizations", "excess-precision", "fp-contract", "merge-constants",
   "merge-all-constants", "zero-initialized-in-bss", "keep-inline-functions",
   "keep-static-functions", "keep-static-consts", "no-common", "dollars-in-identifiers",
   "extended-identifiers", "ms-extensions", "plan9-extensions", "allow-parameterless-variadic-functions",
   "freestanding", "hosted", "nested-functions", "lax-vector-conversions", "permissive",
   "instrument-functions", "profile-arcs", "test-coverage", "coverage", "profile-generate",
   "profile-use", "branch-probabilities", "sanitize", "no-sanitize", "sanitize-recover",
   "sanitize-trap", "ident", "verbose-asm", "record-gcc-switches", "pcc-struct-return",
   "reg-struct-return", "align-functions", "align-loops", "align-jumps", "align-labels",
   "conserve-stack", "split-stack", "stack-usage", "callgraph-info", "dump-ipa-all",
   "store-merging", "tree-pre", "tree-vrp", "expensive-optimizations", "strength-reduce",
   "thread-jumps", "crossjumping", "if-conversion", "if-conversion2", "reorder-blocks",
   "reorder-functions", "prefetch-loop-arrays", "tracer", "web", "rename-registers",
   "move-loop-invariants", "split-loops", "unswitch-loops", "peel-loops", "ivopts",
   "tree-loop-distribution", "tree-loop-distribute-patterns", "predictive-commoning",
   "hoist-adjacent-loads", "code-hoisting", "shrink-wrap", "caller-saves", "cse-follow-jumps",
   "rerun-cse-after-loop", "defer-pop", "guess-branch-probability", "jump-tables",
   "bit-tests", "stdarg-opt", "tree-ccp", "tree-dce", "tree-dse", "tree-forwprop",
   "tree-fre", "tree-sra", "tree-ter", "tree-copy-prop", "tree-ch", "tree-sink",
   "tree-tail-merge", "tree-switch-conversion", "tree-cselim", "tree-phiprop",
   "tree-loop-im", "tree-loop-ivcanon", "tree-loop-optimize", "tree-scev-cprop",
   "tree-dominator-opts", "tree-bit-ccp", "tree-builtin-call-dce", "tree-coalesce-vars",
   "tree-partial-pre", "tree-slsr", "auto-inc-dec", "branch-count-reg", "combine-stack-adjustments",
   "compare-elim", "cprop-registers", "dce", "dse", "forward-propagate", "ipa-profile",
   "ipa-pure-const", "ipa-reference", "ipa-reference-addressable", "ipa-modref",
   "ipa-bit-cp", "ipa-vrp", "ipa-stack-alignment", "ipa-icf-functions", "ipa-icf-variables",
   "ipa-strict-aliasing", "partial-inlining", "early-inlining", "indirect-inlining",
   "inline-functions-called-once", "toplevel-reorder", "unit-at-a-time", "whole-program",
   "sched-interblock", "sched-spec", "sched-pressure", "selective-scheduling",
   "modulo-sched", "reschedule-modulo-scheduled-loops", "ree", "lra-remat", "ira-share-save-slots",
   "ira-share-spill-slots", "ira-hoist-pressure", "ira-loop-pressure", "sched-stalled-insns",
   "optimize-strlen", "printf-return-value", "isolate-erroneous-paths-attribute",
   "allocation-dce", "version-loops-for-strides", "split-paths", "ssa-backprop",
   "ssa-phiopt", "gcse-after-reload", "gcse-las", "gcse-sm", "gcse-lm", "loop-interchange",
   "loop-unroll-and-jam", "tree-loop-if-convert", "tree-loop-if-convert-stores",
   "finite-loops", "threadsafe-statics", "use-cxa-atexit", "short-double", "leading-underscore",
   "no-leading-underscore", "default-inline", "ident", "working-directory", "preprocessed",
   "directives-only", "dump-noaddr", "input-charset", "exec-charset", "wide-exec-charset",
   "char8_t", "abi-version", "tabstop", "debug-prefix-map", "file-prefix-map",
   "macro-prefix-map", "profile-prefix-map", "stack-check", "stack-limit-register",
   "stack-limit-symbol", "no-stack-limit", "strict-volatile-bitfields", "non-call-exceptions",
   "delayed-branch", "float-store", "errno", "show-column", "gnu-tm", "tm",
   "trivial-auto-var-init", "zero-call-used-regs", "patchable-function-entry",
   "ipa-struct-reorg", "live-patching", "shrink-wrap-separate", "var-tracking",
   "var-tracking-assignments", "eliminate-unused-debug-types", "eliminate-unused-debug-symbols",
   "debug-types-section", "dwarf2-cfi-asm", "asm-comments", "align-commons",
   "strict-flex-arrays", "hardened", "analyzer", "gnu-unique", "hosted", "emit-class-debug-always",
   "signaling-nans", "cx-limited-range", "cx-fortran-rules", "single-precision-constant"]

/-- The `-W` options the compiler knows, without `no-` and without a value. -/
def knownW : List String :=
  ["all", "extra", "error", "pedantic", "fatal-errors", "unused", "unused-variable",
   "unused-but-set-variable", "unused-parameter", "unused-but-set-parameter",
   "unused-function", "unused-label", "unused-value", "unused-result", "unused-local-typedefs",
   "unused-const-variable", "unused-macros", "implicit", "implicit-int",
   "implicit-function-declaration", "return-type", "parentheses", "sign-compare",
   "sign-conversion", "conversion", "float-conversion", "int-conversion", "pointer-sign",
   "incompatible-pointer-types", "format", "format-security", "format-nonliteral",
   "format-extra-args", "format-zero-length", "format-overflow", "format-truncation",
   "format-y2k", "format-signedness", "format-contains-nul", "uninitialized",
   "maybe-uninitialized", "shadow", "shadow-local", "shadow-compatible-local", "cast-qual",
   "cast-align", "cast-function-type", "missing-prototypes", "strict-prototypes",
   "missing-declarations", "old-style-definition", "old-style-declaration",
   "missing-field-initializers", "missing-braces", "missing-parameter-type",
   "declaration-after-statement", "switch", "switch-default", "switch-enum",
   "switch-unreachable", "implicit-fallthrough", "overflow", "shift-count-overflow",
   "shift-count-negative", "shift-overflow", "shift-negative-value", "div-by-zero",
   "char-subscripts", "comment", "comments", "trigraphs", "undef", "endif-labels",
   "long-long", "vla", "variadic-macros", "write-strings", "pointer-arith", "type-limits",
   "empty-body", "address", "array-bounds", "stringop-overflow", "stringop-truncation",
   "stringop-overread", "restrict", "nonnull", "nonnull-compare", "bool-compare",
   "bool-operation", "logical-op", "logical-not-parentheses", "misleading-indentation",
   "multistatement-macros", "sizeof-pointer-div", "sizeof-pointer-memaccess",
   "sizeof-array-argument", "memset-elt-size", "memset-transposed-args", "tautological-compare",
   "duplicated-cond", "duplicated-branches", "null-dereference", "frame-address",
   "dangling-else", "dangling-pointer", "strict-aliasing", "strict-overflow", "inline",
   "float-equal", "double-promotion", "redundant-decls", "nested-externs", "packed",
   "padded", "aggregate-return", "bad-function-cast", "c++-compat", "jump-misses-init",
   "enum-compare", "enum-conversion", "enum-int-mismatch", "int-in-bool-context",
   "int-to-pointer-cast", "pointer-to-int-cast", "discarded-qualifiers",
   "discarded-array-qualifiers", "incompatible-pointer-types", "main", "missing-include-dirs",
   "deprecated", "deprecated-declarations", "attributes", "builtin-declaration-mismatch",
   "builtin-macro-redefined", "cpp", "pragmas", "unknown-pragmas", "system-headers",
   "error-implicit-function-declaration", "abi", "psabi", "stack-protector", "vector-operation-performance",
   "disabled-optimization", "coverage-mismatch", "odr", "lto-type-mismatch", "invalid-memory-model",
   "volatile-register-var", "return-local-addr", "sequence-point", "unsafe-loop-optimizations",
   "suggest-attribute", "missing-noreturn", "missing-format-attribute", "openmp-simd",
   "alloca", "alloc-zero", "alloc-size-larger-than", "vla-larger-than", "larger-than",
   "frame-larger-than", "stack-usage", "array-parameter", "vla-parameter", "zero-length-bounds",
   "infinite-recursion", "use-after-free", "analyzer-too-complex", "c90-c99-compat",
   "c99-c11-compat", "c11-c2x-compat", "designated-init", "discarded-qualifiers",
   "expansion-to-defined", "free-nonheap-object", "hsa", "if-not-aligned", "ignored-attributes",
   "ignored-qualifiers", "incompatible-pointer-types", "int-conversion", "lto-type-mismatch",
   "missing-attributes", "missing-profile", "mismatched-dealloc", "mismatched-new-delete",
   "narrowing", "overlength-strings", "override-init", "override-init-side-effects",
   "pedantic-ms-format", "pointer-compare", "scalar-storage-order", "sizeof-array-div",
   "string-compare", "traditional", "traditional-conversion", "trampolines", "unsuffixed-float-constants",
   "unused-macros", "varargs", "vector-operation-performance", "xor-used-as-pow",
   "absolute-value", "arith-conversion", "array-compare", "attribute-alias",
   "attribute-warning", "bidi-chars", "clobbered", "dangling-else", "date-time",
   "duplicate-decl-specifier", "hsa", "openacc-parallelism", "overlength-strings",
   "return-mismatch", "declaration-missing-parameter-type", "implicit-int"]

/-- The warnings `-Wall` enables for C. -/
def wallGroup : List String :=
  ["address", "array-bounds", "bool-compare", "bool-operation", "char-subscripts", "comment",
   "dangling-pointer", "enum-conversion", "format", "frame-address", "int-in-bool-context",
   "logical-not-parentheses", "main", "maybe-uninitialized", "memset-elt-size",
   "memset-transposed-args", "misleading-indentation", "missing-attributes", "missing-braces",
   "multistatement-macros", "nonnull", "nonnull-compare", "parentheses", "pointer-sign",
   "restrict", "return-type", "sequence-point", "sizeof-array-div", "sizeof-pointer-div",
   "sizeof-pointer-memaccess", "strict-aliasing", "strict-overflow", "switch",
   "tautological-compare", "trigraphs", "uninitialized", "unknown-pragmas", "unused-function",
   "unused-label", "unused-value", "unused-variable", "unused-but-set-variable",
   "unused-local-typedefs", "use-after-free", "vla-parameter", "array-parameter",
   "zero-length-bounds", "implicit-function-declaration", "implicit-int"]

/-- The warnings `-Wextra` enables for C. -/
def wextraGroup : List String :=
  ["clobbered", "cast-function-type", "empty-body", "ignored-qualifiers", "implicit-fallthrough",
   "missing-field-initializers", "missing-parameter-type", "old-style-declaration",
   "override-init", "sign-compare", "type-limits", "shift-negative-value",
   "unused-parameter", "unused-but-set-parameter", "string-compare", "enum-int-mismatch",
   "alloc-size"]

/-- The warnings on without any option. -/
def defaultWarnings : List String :=
  ["implicit-function-declaration", "implicit-int", "int-conversion", "incompatible-pointer-types",
   "overflow", "shift-count-overflow", "shift-count-negative", "div-by-zero", "return-local-addr",
   "builtin-declaration-mismatch", "discarded-qualifiers", "discarded-array-qualifiers",
   "int-to-pointer-cast", "pointer-to-int-cast", "cpp", "deprecated", "deprecated-declarations",
   "attributes", "pragmas", "endif-labels", "overflow", "psabi", "return-mismatch",
   "builtin-macro-redefined", "unused-result", "stringop-overflow", "format-overflow",
   "format-truncation", "free-nonheap-object", "if-not-aligned", "ignored-attributes",
   "int-in-bool-context", "narrowing", "odr", "shift-overflow", "varargs", "pointer-compare",
   "designated-init", "discarded-qualifiers", "incompatible-pointer-types", "lto-type-mismatch",
   "invalid-memory-model", "mismatched-dealloc", "alloc-size-larger-than",
   "attribute-warning", "bidi-chars", "dangling-else", "overflow", "return-type-default",
   "trampolines"]

/-- The standard a `-std=` value names, with whether it is a GNU dialect. -/
def standardOf : String → Option (Standard × Bool)
  | "c89" | "c90" | "iso9899:1990" | "ansi" => some (.c90, false)
  | "iso9899:199409" => some (.c94, false)
  | "c99" | "c9x" | "iso9899:1999" | "iso9899:199x" => some (.c99, false)
  | "c11" | "c1x" | "iso9899:2011" => some (.c11, false)
  | "c17" | "c18" | "iso9899:2017" | "iso9899:2018" => some (.c17, false)
  | "c2x" => some (.c2x, false)
  | "gnu89" | "gnu90" => some (.c90, true)
  | "gnu99" | "gnu9x" => some (.c99, true)
  | "gnu11" | "gnu1x" => some (.c11, true)
  | "gnu17" | "gnu18" => some (.c17, true)
  | "gnu2x" => some (.c2x, true)
  | _ => none

/-- `-std=` values of other languages, which the C compiler only warns about. -/
def foreignStandard (v : String) : Bool :=
  v.startsWith "c++" || v.startsWith "gnu++" || v == "f95" || v == "f2003" || v == "f2008"

/-- Add a warning name to a list once. -/
def addName (ns : List String) (n : String) : List String := if ns.contains n then ns else ns ++ [n]

/-- Enable a warning (and its group) or disable it. -/
def setWarning (o : Options) (name : String) (on : Bool) : Options :=
  let group := match name with
    | "all" => wallGroup
    | "extra" => wextraGroup
    | "unused" => ["unused-variable", "unused-function", "unused-label", "unused-value",
        "unused-but-set-variable", "unused-local-typedefs"]
    | "implicit" => ["implicit-int", "implicit-function-declaration"]
    | "format" => ["format", "format-security", "format-overflow", "format-truncation",
        "format-zero-length", "format-extra-args", "format-contains-nul"]
    | "pedantic" => ["pedantic"]
    | n => [n]
  if on then
    { o with warnings := group.foldl addName o.warnings,
             disabled := o.disabled.filter (!group.contains ·),
             pedantic := o.pedantic || name == "pedantic" }
  else
    { o with disabled := group.foldl addName o.disabled,
             pedantic := o.pedantic && name != "pedantic" }

/-- Read a `-W` option (after `-W`). -/
def warningOption (o : Options) (body : String) : Options :=
  let (on, name) := if body.startsWith "no-" then (false, (body.drop 3).toString) else (true, body)
  if name == "error" then { o with allErrors := on }
  else if name.startsWith "error=" then
    let n := (name.drop 6).toString
    if on then { (o.setWarning n true) with errorNames := addName o.errorNames n }
    else { o with noErrorNames := addName o.noErrorNames n }
  else if name == "" then o.setWarning "extra" on
  else
    let base := (name.splitOn "=").headD name
    if !on && !(knownW.contains base) then o
    else if knownW.contains base || base.startsWith "format" || base.startsWith "larger-than"
        || base.startsWith "stack-usage" || base.startsWith "frame-larger-than"
        || base.startsWith "alloca-larger-than" || base.startsWith "vla-larger-than"
        || base.startsWith "normalized" || base.startsWith "strict-overflow"
        || base.startsWith "strict-aliasing" || base.startsWith "array-bounds"
        || base.startsWith "implicit-fallthrough" || base.startsWith "shift-overflow"
        || base.startsWith "stringop-overflow" || base.startsWith "unused-const-variable"
        || base.startsWith "bidi-chars" || base.startsWith "attribute-alias"
        || base.startsWith "use-after-free" || base.startsWith "dangling-pointer" then
      o.setWarning base on
    else { o with rejected := some ("unrecognized command-line option '-W" ++ body ++ "'") }

/-- Read an `-f` option (after `-f`). -/
def featureOption (o : Options) (body : String) : Options :=
  let (on, name) := if body.startsWith "no-" then (false, (body.drop 3).toString) else (true, body)
  let (key, value) := match name.splitOn "=" with
    | k :: v :: rest => (k, some ("=".intercalate (v :: rest)))
    | _ => (name, none)
  match key with
  | "PIC" => { o with pic := if on then 2 else 0 }
  | "pic" => { o with pic := if on then 1 else 0 }
  | "PIE" => { o with pie := if on then 2 else 0 }
  | "pie" => { o with pie := if on then 1 else 0 }
  | "signed-char" => { o with unsignedChar := !on }
  | "unsigned-char" => { o with unsignedChar := on }
  | "short-wchar" => { o with shortWchar := on }
  | "short-enums" => { o with shortEnums := on }
  | "pack-struct" =>
    if !on then { o with packStruct := none }
    else match value with
      | none => { o with packStruct := some 1 }
      | some v =>
        match v.toNat? with
        | some n => if n == 1 || n == 2 || n == 4 || n == 8 || n == 16 then { o with packStruct := some n }
                    else { o with packStruct := some n }
        | none => { o with rejected := some ("invalid value for -fpack-struct") }
  | "single-precision-constant" => { o with singlePrecisionConstants := on }
  | "wrapv" => { o with wrapv := on }
  | "fast-math" => { o with fastMath := on, finiteMath := on }
  | "finite-math-only" => { o with finiteMath := on }
  | "syntax-only" => if on then { o with output := .nothing } else o
  | "builtin" => { o with noBuiltin := !on }
  | "common" => { o with common := on }
  | "dollars-in-identifiers" => { o with dollars := on }
  | _ =>
    if knownF.contains key || key.startsWith "sanitize" || key.startsWith "dump-"
        || key.startsWith "opt-info" || key.startsWith "stack-protector"
        || key.startsWith "profile" || key.startsWith "diagnostics-"
        || key.startsWith "sched-" || key.startsWith "tree-" || key.startsWith "ipa-"
        || key.startsWith "align-" || key.startsWith "visibility"
        || key.startsWith "lto" || key.startsWith "debug" then o
    else { o with rejected := some ("unrecognized command-line option '-f" ++ body ++ "'") }

/-- Read an `-m` option (after `-m`). -/
def machineOption (o : Options) (body : String) : Options :=
  let name := if body.startsWith "no-" then (body.drop 3).toString else body
  if body == "32" || body == "x32" || body == "16" then { o with wrongTarget := true }
  else if body == "64" then o
  else if name.startsWith "arch=" || name.startsWith "tune=" || name.startsWith "cpu=" then
    let v := ((name.splitOn "=").drop 1).headD ""
    if knownCpus.contains v then o
    else { o with rejected := some ("bad value '" ++ v ++ "' for '-m" ++ name ++ "' switch") }
  else if knownM.contains name || name.startsWith "fpmath=" || name.startsWith "cmodel="
      || name.startsWith "stack-protector-guard" || name.startsWith "branch-cost="
      || name.startsWith "preferred-stack-boundary=" || name.startsWith "incoming-stack-boundary="
      || name.startsWith "function-return=" || name.startsWith "indirect-branch="
      || name.startsWith "tls-dialect=" || name.startsWith "align-" || name.startsWith "prefer-vector-width="
      || name.startsWith "abi=" || name.startsWith "large-data-threshold=" then o
  else { o with rejected := some ("unrecognized command-line option '-m" ++ body ++ "'") }
where
  /-- Processor names `-march` and `-mtune` accept. -/
  knownCpus : List String :=
    ["native", "x86-64", "x86-64-v2", "x86-64-v3", "x86-64-v4", "generic", "intel", "core2",
     "nehalem", "westmere", "sandybridge", "ivybridge", "haswell", "broadwell", "skylake",
     "skylake-avx512", "cascadelake", "cooperlake", "cannonlake", "icelake-client",
     "icelake-server", "tigerlake", "alderlake", "rocketlake", "sapphirerapids", "znver1",
     "znver2", "znver3", "btver1", "btver2", "bdver1", "bdver2", "bdver3", "bdver4", "k8",
     "k8-sse3", "opteron", "athlon64", "athlon-fx", "amdfam10", "barcelona", "nocona",
     "prescott", "pentium4", "atom", "bonnell", "silvermont", "slm", "goldmont",
     "goldmont-plus", "tremont", "knl", "knm", "x86-64", "corei7", "corei7-avx", "core-avx-i",
     "core-avx2", "pentium-m", "pentium3", "pentium2", "pentiumpro", "i686", "i586", "i486",
     "i386", "lakemont", "geode", "c3", "c3-2", "c7", "eden-x2", "eden-x4", "nano", "nano-x2",
     "nano-x4", "lujiazui"]
  /-- Other `-m` option names. -/
  knownM : List String :=
    ["sse", "sse2", "sse3", "ssse3", "sse4", "sse4.1", "sse4.2", "sse4a", "avx", "avx2",
     "avx512f", "avx512bw", "avx512dq", "avx512vl", "avx512cd", "fma", "fma4", "bmi", "bmi2",
     "lzcnt", "popcnt", "aes", "pclmul", "rdrnd", "rdseed", "f16c", "movbe", "adx", "sha",
     "xsave", "xsaveopt", "mmx", "3dnow", "red-zone", "80387", "fp-ret-in-387", "hard-float",
     "soft-float", "ieee-fp", "omit-leaf-frame-pointer", "stackrealign", "push-args",
     "accumulate-outgoing-args", "vzeroupper", "tls-direct-seg-refs", "align-double",
     "long-double-64", "long-double-80", "long-double-128", "128bit-long-double",
     "96bit-long-double", "recip", "cx16", "sahf", "crc32", "abm", "tbm", "xop", "lwp",
     "clflushopt", "clwb", "shstk", "ibt", "general-regs-only", "needed", "red-zone",
     "no-red-zone", "direct-extern-access", "cld", "vzeroupper", "dispatch-scheduler",
     "prefer-avx128", "avx256-split-unaligned-load", "avx256-split-unaligned-store", "rtm",
     "hle", "prfchw", "fxsr", "xsavec", "xsaves", "pku", "wbnoinvd", "waitpkg", "cldemote",
     "movdiri", "movdir64b", "enqcmd", "serialize", "tsxldtrk", "uintr", "hreset", "kl",
     "widekl", "avxvnni", "avx512fp16", "amx-tile", "amx-int8", "amx-bf16", "gfni",
     "vaes", "vpclmulqdq", "avx512vbmi", "avx512ifma", "avx512vbmi2", "avx512vnni",
     "avx512bitalg", "avx512vpopcntdq", "avx512bf16", "avx512vp2intersect", "ptwrite",
     "sgx", "rdpid", "mwaitx", "clzero", "pconfig", "fentry", "record-mcount", "nop-mcount",
     "mcount", "stack-arg-probe", "force-drap", "inline-all-stringops",
     "inline-stringops-dynamically", "tune-ctrl", "dump-tune-features", "daz-ftz",
     "harden-sls", "indirect-branch-register", "red-zone"]

/-- Read one option that stands alone. -/
def single (o : Options) (f : String) : Options :=
  if f == "-c" || f == "-shared" || f == "-pipe" || f == "-v" || f == "-s" || f == "-rdynamic"
      || f == "-pthread" || f == "-static" || f == "-static-libgcc" || f == "-symbolic"
      || f == "-g" || f == "-H" || f == "-C" || f == "-CC" || f == "-P" || f == "-time"
      || f == "-Q" || f == "-p" || f == "-pg" || f == "-no-pie" || f == "-pie"
      || f == "-MD" || f == "-MMD" || f == "-MP" || f == "-MG" || f == "-nodefaultlibs"
      || f == "-nostartfiles" || f == "-nostdlib" || f == "-remap" || f == "-save-temps"
      || f == "-fpreprocessed" || f == "-static-pie" || f == "-shared-libgcc"
      || f == "-dD" || f == "-dN" || f == "-dI" || f == "-dU" || f == "-fdirectives-only"
      || f == "-ftrack-macro-expansion" || f == "-no-integrated-cpp" || f == "-ftime-report"
      || f == "-fmem-report" || f == "-fopt-info" || f == "-freport-bug"
      || f == "-###" || f == "--verbose" then o
  else if f == "--version" || f == "-dumpversion" || f == "-dumpmachine" || f == "-dumpfullversion"
      || f == "--help" || f == "-dumpspecs" || f == "--target-help" || f == "-print-search-dirs"
      || f == "-print-libgcc-file-name" || f == "-print-multi-directory"
      || f == "-print-multi-lib" || f == "-print-sysroot" || f == "-print-multiarch"
      || f == "-M" || f == "-MM" || f == "-fsyntax-only" then { o with output := .nothing }
  else if f == "-E" || f == "-S" || f == "-dM" then { o with output := .text }
  else if f == "-w" then { o with silent := true }
  else if f == "-pedantic" || f == "-Wpedantic" then { o with pedantic := true }
  else if f == "-pedantic-errors" then { o with pedantic := true, pedanticErrors := true }
  else if f == "-ansi" then { o with standard := .c90, gnu := false, trigraphs := true }
  else if f == "-trigraphs" then { o with trigraphs := true }
  else if f == "-undef" then { o with systemMacros := false }
  else if f == "-nostdinc" then { o with noStdInc := true }
  else if f == "-traditional" || f == "-traditional-cpp" then
    { o with rejected := some "GNU C no longer supports -traditional without -E" }
  else if f == "-O" then { o with optLevel := 1, optSize := false, keepUnused := false }
  else if f.startsWith "-O" then
    match (f.drop 2).toString with
    | "0" => { o with optLevel := 0, optSize := false, keepUnused := true }
    | "s" | "z" => { o with optLevel := 2, optSize := true, keepUnused := false }
    | "fast" => { o with optLevel := 3, optSize := false, fastMath := true, finiteMath := true,
                         keepUnused := false }
    | "g" => { o with optLevel := 1, optSize := false, keepUnused := false }
    | v =>
      match v.toNat? with
      | some n => { o with optLevel := min n 3, optSize := false, keepUnused := n == 0 }
      | none => { o with rejected := some "argument to '-O' should be a non-negative integer, 'g', 's', 'z' or 'fast'" }
  else if f.startsWith "-std=" then
    let v := (f.drop 5).toString
    match standardOf v with
    | some (s, g) => { o with standard := s, gnu := g, trigraphs := !g }
    | none => if foreignStandard v then o
      else { o with rejected := some ("unrecognized command-line option '" ++ f ++ "'") }
  else if f.startsWith "-g" then o
  else if f.startsWith "-W" then
    if f.startsWith "-Wl," then
      let parts := ((f.drop 4).toString.splitOn ",")
      if parts.contains "--no-undefined" || parts.contains "defs" && parts.contains "-z"
          || parts.contains "-zdefs" || parts.contains "--no-allow-shlib-undefined" then
        { o with noUndefined := true }
      else o
    else if f.startsWith "-Wa," || f.startsWith "-Wp," then o
    else o.warningOption (f.drop 2).toString
  else if f.startsWith "-f" then o.featureOption (f.drop 2).toString
  else if f.startsWith "-m" then o.machineOption (f.drop 2).toString
  else if f.startsWith "--param=" || f.startsWith "-print-file-name=" || f.startsWith "-print-prog-name="
      || f.startsWith "--sysroot=" || f.startsWith "-B" || f.startsWith "-specs=" then o
  else if f.startsWith "-" then { o with rejected := some ("unrecognized command-line option '" ++ f ++ "'") }
  else { o with rejected := some (f ++ ": No such file or directory") }

/-- Read an option with its value. -/
def withValue (o : Options) (opt v : String) : Options :=
  match opt with
  | "-D" =>
    if v.isEmpty then { o with rejected := some "macro name missing after '-D'" }
    else
      let line := match v.splitOn "=" with
        | [n] => "#define " ++ n ++ " 1"
        | n :: rest => "#define " ++ n ++ " " ++ "=".intercalate rest
        | [] => ""
      { o with definitions := o.definitions ++ [line] }
  | "-U" =>
    if v.isEmpty then { o with rejected := some "macro name missing after '-U'" }
    else { o with definitions := o.definitions ++ ["#undef " ++ v] }
  | "-l" => { o with libraries := o.libraries ++ [v] }
  | "-include" | "-imacros" => { o with forcedIncludes := o.forcedIncludes ++ [v] }
  | "-o" => { o with output := .nothing }
  | "-x" =>
    if v == "c" || v == "none" || v == "c-header" || v == "cpp-output" || v == "assembler"
        || v == "assembler-with-cpp" || v == "c++" || v == "objective-c" then o
    else { o with rejected := some ("language " ++ v ++ " not recognized") }
  | "-Xlinker" =>
    if v == "--no-undefined" || v == "-zdefs" then { o with noUndefined := true } else o
  | "-z" => if v == "defs" then { o with noUndefined := true } else o
  | _ => o

end Options

/-- Read the flags given after the defaults. -/
def Options.read : Nat → List String → Options → Options
  | 0, _, o => o
  | _, [], o => o
  | fuel + 1, f :: rest, o =>
    if Options.separateValue.contains f then
      match rest with
      | v :: more => Options.read fuel more (o.withValue f v)
      | [] => { o with rejected := some ("missing argument to '" ++ f ++ "'") }
    else if f.startsWith "-D" || f.startsWith "-U" then
      Options.read fuel rest (o.withValue (f.take 2).toString (f.drop 2).toString)
    else if f.startsWith "-l" then Options.read fuel rest (o.withValue "-l" (f.drop 2).toString)
    else if f.startsWith "-I" || f.startsWith "-L" then Options.read fuel rest o
    else Options.read fuel rest (o.single f)

/-- The options of a compilation with the given flags after the defaults. -/
def Options.ofFlags (flags : List String) : Options :=
  Options.read (flags.length + 1) flags {}

/-- Whether a warning is enabled. -/
def Options.warns (o : Options) (w : String) : Bool :=
  !o.silent && (w.isEmpty || !o.disabled.contains w &&
    (o.warnings.contains w || Options.defaultWarnings.contains w))

/-- Whether a warning, when given, fails the compilation. -/
def Options.warningFails (o : Options) (w : String) : Bool :=
  o.warns w && !o.noErrorNames.contains w && (o.allErrors || o.errorNames.contains w)

/-- Whether a pedantic diagnostic fails the compilation. -/
def Options.pedanticFails (o : Options) : Bool :=
  o.pedanticErrors || (o.pedantic && o.allErrors && !o.silent)

/-- Whether the compiler optimizes. -/
def Options.optimize (o : Options) : Bool := o.optLevel > 0

end InlineC.Lang
