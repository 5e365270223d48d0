import InlineC.Lang.Preprocess
import InlineC.Lang.Parser
import InlineC.Lang.Check
import InlineC.Machine.Link
import InlineC.Failure

/-!
# Compiling a library

The system compiler run on a translation unit with the extension's flags, in two steps: the
compile step preprocesses, parses and checks `NAME.c` into an object, and the link step
makes the shared library of it, resolving the libraries named by `-l`.

The flags follow each step's own arguments, so a flag that changes what the compiler
writes decides where the build ends: one that makes it write nothing (`-fsyntax-only`, `-M`,
a second `-o`) leaves the link step without its object, and fails it; one that makes it write
text instead of an object (`-E`, `-S`) or print information and stop (`--version`) makes both
steps succeed without a library to load.
-/

namespace InlineC.Host

open InlineC.Lang

/-- Libraries the system links against. -/
def systemLibraries : List String :=
  ["c", "m", "dl", "pthread", "rt", "util", "resolv", "crypt", "gcc", "gcc_s", "stdc++",
   "atomic", "anl", "nsl", "mvec", "BrokenLocale", "quadmath", "gomp", "ssp", "ubsan", "asan",
   "lsan", "tsan", "itm", "supc++"]

/-- Options that print information instead of compiling. -/
def informationFlags : List String :=
  ["--version", "-dumpversion", "-dumpmachine", "-dumpfullversion", "--help", "-dumpspecs",
   "--target-help", "-print-search-dirs", "-print-libgcc-file-name", "-print-multi-directory",
   "-print-multi-lib", "-print-sysroot", "-print-multiarch"]

/-- The GNU attributes `__has_attribute` knows. -/
def knownAttributes : List String :=
  ["aligned", "alloc_size", "always_inline", "artificial", "cleanup", "cold", "const",
   "constructor", "deprecated", "destructor", "error", "externally_visible", "fallthrough",
   "flatten", "format", "format_arg", "gnu_inline", "hot", "ifunc", "interrupt", "leaf",
   "malloc", "may_alias", "mode", "no_instrument_function", "noclone", "noinline", "noipa",
   "nonnull", "noreturn", "nothrow", "optimize", "packed", "pure", "returns_nonnull",
   "returns_twice", "section", "sentinel", "target", "transparent_union", "unavailable",
   "unused", "used", "vector_size", "visibility", "warn_unused_result", "warning", "weak",
   "weakref", "access", "alias", "copy", "designated_init", "nonstring", "no_reorder",
   "no_stack_protector", "noplt", "retain", "scalar_storage_order", "simd", "tls_model",
   "warn_if_not_aligned", "zero_call_used_regs", "maybe_unused", "nodiscard", "common",
   "nocommon", "no_icf", "no_split_stack", "noinit", "persistent", "symver", "assume_aligned",
   "alloc_align", "no_sanitize", "no_sanitize_address", "no_sanitize_thread",
   "no_sanitize_undefined", "no_profile_instrument_function", "stack_protect", "naked"]

/-- How the preprocessor sees the compiler's built-in names. -/
def preprocessorConfig (o : Options) : PPConfig :=
  { options := o, lexMode := o.lexMode,
    hasBuiltin := fun n => builtinNames.contains n || (builtinLibraryName n).isSome,
    attributeVersion := fun n =>
      let bare := if n.startsWith "__" && n.endsWith "__" && n.length > 4 then
        ((n.drop 2).dropEnd 2).toString else n
      if knownAttributes.contains bare then 1 else 0 }

/-- What compiling and linking a translation unit gives: the library, or nothing when the
compiler wrote no library although neither step failed. -/
def compileLibrary (name source : String) (flags : List String) :
    Except BuildStep (Option Machine.Library) := do
  let o := Options.ofFlags flags
  if o.rejected.isSome || o.wrongTarget then throw .compile
  if flags.any informationFlags.contains then return none
  let (toks, ppDiags) ← match preprocess (preprocessorConfig o) (name ++ ".c") source with
    | .ok r => pure r
    | .error _ => throw .compile
  if o.failsWith ppDiags.toList then throw .compile
  if flags.any (["-E", "-M", "-MM", "-dM"].contains ·) then
    if o.output == .nothing then throw .link else return none
  let decls ← match parseUnit { gnu := o.gnu } toks with
    | .ok ds => pure ds
    | .error _ => throw .compile
  let tg : Lang.Target := { charSigned := !o.unsignedChar, shortWchar := o.shortWchar }
  let (prog, diags) ← match Check.checkUnit tg o decls with
    | .ok r => pure r
    | .error _ => throw .compile
  if o.failsWith diags.toList then throw .compile
  match o.output with
  | .nothing => throw .link
  | .text => return none
  | .object => pure ()
  if o.libraries.any (fun l => !systemLibraries.contains l) then throw .link
  let lib ← match Machine.link prog (fun _ => false) with
    | .ok l => pure l
    | .error _ => throw .compile
  if o.noUndefined && !lib.unresolved.isEmpty then throw .link
  pure (some lib)

/-- The file name of a module's library. -/
def libraryFilename (name : String) : String := "lib" ++ name ++ ".so"

end InlineC.Host
