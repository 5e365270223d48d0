import InlineC.Lang.Type

/-!
# What the compiler knows of the library

The compiler knows the prototypes of the standard functions: a call to one that was not
declared is checked against the known prototype, as the compiler does for its built-in
functions, so `sqrt(2)` passes a `double` even without `<math.h>`.

It also knows the names of its own built-in functions, which `__has_builtin` reports; the
ones the checker gives a meaning to are listed in `builtinNames`, and a `__builtin_` name
that stands for a library function calls that function.
-/

namespace InlineC.Lang

open CType

/-- A prototype. -/
def proto (ret : CType) (params : List CType) (variadic : Bool := false) : CType :=
  .func ret params variadic true

/-- `const char *`, as the checker keeps it. -/
def cstr : CType := .ptr (.int .char)

/-- `double`. -/
def dbl : CType := .float .double

/-- `float`. -/
def flt : CType := .float .float

/-- `long double`. -/
def ldbl : CType := .float .ldouble

/-- The prototype of a library function the compiler knows. -/
def libraryPrototype (name : String) : Option CType :=
  let unary := ["sqrt", "sin", "cos", "tan", "asin", "acos", "atan", "sinh", "cosh", "tanh",
    "asinh", "acosh", "atanh", "exp", "exp2", "expm1", "log", "log2", "log10", "log1p", "logb",
    "cbrt", "fabs", "floor", "ceil", "trunc", "round", "rint", "nearbyint", "erf", "erfc",
    "tgamma", "lgamma"]
  let binary := ["pow", "atan2", "fmod", "hypot", "copysign", "fmin", "fmax", "fdim",
    "remainder", "nextafter"]
  if unary.contains name then some (proto dbl [dbl])
  else if unary.any (· ++ "f" == name) then some (proto flt [flt])
  else if unary.any (· ++ "l" == name) then some (proto ldbl [ldbl])
  else if binary.contains name then some (proto dbl [dbl, dbl])
  else if binary.any (· ++ "f" == name) then some (proto flt [flt, flt])
  else if binary.any (· ++ "l" == name) then some (proto ldbl [ldbl, ldbl])
  else match name with
  | "ldexp" => some (proto dbl [dbl, int32])
  | "frexp" => some (proto dbl [dbl, .ptr int32])
  | "modf" => some (proto dbl [dbl, .ptr dbl])
  | "lround" | "lrint" => some (proto long [dbl])
  | "llround" | "llrint" => some (proto (.int .llong) [dbl])
  | "fma" => some (proto dbl [dbl, dbl, dbl])
  | "abs" => some (proto int32 [int32])
  | "labs" => some (proto long [long])
  | "llabs" => some (proto (.int .llong) [.int .llong])
  | "strlen" => some (proto ulong [cstr])
  | "strnlen" => some (proto ulong [cstr, ulong])
  | "strcmp" => some (proto int32 [cstr, cstr])
  | "strncmp" => some (proto int32 [cstr, cstr, ulong])
  | "strcasecmp" => some (proto int32 [cstr, cstr])
  | "strncasecmp" => some (proto int32 [cstr, cstr, ulong])
  | "strcpy" | "strcat" | "stpcpy" => some (proto cstr [cstr, cstr])
  | "strncpy" | "strncat" | "stpncpy" => some (proto cstr [cstr, cstr, ulong])
  | "strchr" | "strrchr" => some (proto cstr [cstr, int32])
  | "strstr" | "strpbrk" => some (proto cstr [cstr, cstr])
  | "strspn" | "strcspn" => some (proto ulong [cstr, cstr])
  | "strdup" => some (proto cstr [cstr])
  | "strndup" => some (proto cstr [cstr, ulong])
  | "memcpy" | "memmove" | "mempcpy" => some (proto voidPtr [voidPtr, voidPtr, ulong])
  | "memset" => some (proto voidPtr [voidPtr, int32, ulong])
  | "memcmp" => some (proto int32 [voidPtr, voidPtr, ulong])
  | "memchr" => some (proto voidPtr [voidPtr, int32, ulong])
  | "malloc" => some (proto voidPtr [ulong])
  | "calloc" => some (proto voidPtr [ulong, ulong])
  | "realloc" => some (proto voidPtr [voidPtr, ulong])
  | "free" => some (proto .void [voidPtr])
  | "abort" => some (proto .void [])
  | "exit" | "_exit" | "_Exit" => some (proto .void [int32])
  | "printf" => some (proto int32 [cstr] true)
  | "fprintf" | "dprintf" => some (proto int32 [voidPtr, cstr] true)
  | "sprintf" => some (proto int32 [cstr, cstr] true)
  | "snprintf" => some (proto int32 [cstr, ulong, cstr] true)
  | "puts" => some (proto int32 [cstr])
  | "putchar" => some (proto int32 [int32])
  | "scanf" => some (proto int32 [cstr] true)
  | "sscanf" => some (proto int32 [cstr, cstr] true)
  | "isalpha" | "isdigit" | "isalnum" | "isspace" | "isupper" | "islower" | "isxdigit"
  | "ispunct" | "isprint" | "isgraph" | "iscntrl" | "isblank" | "isascii" | "toupper"
  | "tolower" | "toascii" => some (proto int32 [int32])
  | "atoi" => some (proto int32 [cstr])
  | "atol" => some (proto long [cstr])
  | "atoll" => some (proto (.int .llong) [cstr])
  | "atof" => some (proto dbl [cstr])
  | "strtol" => some (proto long [cstr, .ptr cstr, int32])
  | "strtoul" => some (proto ulong [cstr, .ptr cstr, int32])
  | "strtoll" => some (proto (.int .llong) [cstr, .ptr cstr, int32])
  | "strtoull" => some (proto (.int .ullong) [cstr, .ptr cstr, int32])
  | "strtod" => some (proto dbl [cstr, .ptr cstr])
  | "strtof" => some (proto flt [cstr, .ptr cstr])
  | "strtold" => some (proto ldbl [cstr, .ptr cstr])
  | "alloca" => some (proto voidPtr [ulong])
  | _ => none

/-- Whether a call to the function never returns. -/
def noReturnFunction (name : String) : Bool :=
  ["abort", "exit", "_exit", "_Exit", "quick_exit", "__builtin_trap", "__builtin_unreachable",
   "__builtin_abort", "__builtin_exit", "longjmp", "siglongjmp", "__assert_fail",
   "pthread_exit"].contains name

/-- The built-in functions the checker gives a meaning to. -/
def builtinNames : List String :=
  ["__builtin_expect", "__builtin_expect_with_probability", "__builtin_unreachable",
   "__builtin_trap", "__builtin_constant_p", "__builtin_popcount", "__builtin_popcountl",
   "__builtin_popcountll", "__builtin_clz", "__builtin_clzl", "__builtin_clzll",
   "__builtin_ctz", "__builtin_ctzl", "__builtin_ctzll", "__builtin_ffs", "__builtin_ffsl",
   "__builtin_ffsll", "__builtin_parity", "__builtin_parityl", "__builtin_parityll",
   "__builtin_clrsb", "__builtin_clrsbl", "__builtin_clrsbll", "__builtin_bswap16",
   "__builtin_bswap32", "__builtin_bswap64", "__builtin_bswap128", "__builtin_add_overflow",
   "__builtin_sub_overflow", "__builtin_mul_overflow", "__builtin_sadd_overflow",
   "__builtin_saddl_overflow", "__builtin_saddll_overflow", "__builtin_uadd_overflow",
   "__builtin_uaddl_overflow", "__builtin_uaddll_overflow", "__builtin_ssub_overflow",
   "__builtin_ssubl_overflow", "__builtin_ssubll_overflow", "__builtin_usub_overflow",
   "__builtin_usubl_overflow", "__builtin_usubll_overflow", "__builtin_smul_overflow",
   "__builtin_smull_overflow", "__builtin_smulll_overflow", "__builtin_umul_overflow",
   "__builtin_umull_overflow", "__builtin_umulll_overflow", "__builtin_add_overflow_p",
   "__builtin_sub_overflow_p", "__builtin_mul_overflow_p",
   "__builtin_nan", "__builtin_nanf", "__builtin_nanl", "__builtin_nans", "__builtin_nansf",
   "__builtin_inf", "__builtin_inff", "__builtin_infl", "__builtin_huge_val",
   "__builtin_huge_valf", "__builtin_huge_vall", "__builtin_isnan", "__builtin_isinf",
   "__builtin_isinf_sign", "__builtin_isfinite", "__builtin_isnormal", "__builtin_signbit",
   "__builtin_signbitf", "__builtin_signbitl", "__builtin_fpclassify", "__builtin_isgreater",
   "__builtin_isgreaterequal", "__builtin_isless", "__builtin_islessequal",
   "__builtin_islessgreater", "__builtin_isunordered", "__builtin_fabs", "__builtin_fabsf",
   "__builtin_fabsl", "__builtin_copysign", "__builtin_copysignf", "__builtin_copysignl",
   "__builtin_va_start", "__builtin_va_end", "__builtin_va_copy", "__builtin_va_arg",
   "__builtin_alloca", "__builtin_offsetof", "__builtin_object_size",
   "__builtin_dynamic_object_size", "__builtin_frame_address", "__builtin_return_address",
   "__builtin_prefetch", "__builtin_assume_aligned", "__builtin_types_compatible_p",
   "__builtin_choose_expr", "__builtin_classify_type", "__builtin_LINE", "__builtin_FILE",
   "__builtin_FUNCTION", "__builtin_abs", "__builtin_labs", "__builtin_llabs",
   "__builtin_memcpy", "__builtin_memmove", "__builtin_memset", "__builtin_memcmp",
   "__builtin_strlen", "__builtin_strcmp", "__builtin_strncmp", "__builtin_strcpy",
   "__builtin_strchr", "__builtin_malloc", "__builtin_calloc", "__builtin_free",
   "__builtin_abort", "__builtin_exit", "__builtin_printf", "__builtin_sprintf",
   "__builtin_snprintf", "__builtin_puts", "__builtin_putchar", "__builtin_sqrt",
   "__builtin_sqrtf", "__builtin_floor", "__builtin_ceil", "__builtin_trunc",
   "__builtin_round", "__builtin_pow", "__builtin_exp", "__builtin_log", "__builtin_fmod",
   "__builtin_speculation_safe_value", "__builtin_assume", "__builtin_bit_cast",
   "__sync_synchronize", "__atomic_thread_fence", "__atomic_signal_fence"]

/-- The library function a `__builtin_` name stands for, when it calls one. -/
def builtinLibraryName (name : String) : Option String :=
  if name.startsWith "__builtin_" then
    let base := (name.drop 10).toString
    if (libraryPrototype base).isSome then some base else none
  else none

end InlineC.Lang
