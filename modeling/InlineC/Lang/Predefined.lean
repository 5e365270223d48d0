import InlineC.Lang.Options

/-!
# Predefined macros

The macros the compiler defines before reading a source: those of the language revision,
the target (64-bit x86 Linux with its data model and its floating formats), the compiler
release, and those the options decide, such as `__OPTIMIZE__` for an optimizing
compilation, `__PIC__` for position-independent code or `__CHAR_UNSIGNED__` when plain
`char` is unsigned. The GNU dialects also define the traditional system names `linux` and
`unix`; the ISO dialects define `__STRICT_ANSI__` instead.
-/

namespace InlineC.Lang

/-- The release of the compiler these macros describe. -/
def compilerVersion : String := "12.2.0"

/-- Macros that depend on no option. -/
def fixedMacros : List String :=
  ["__STDC__ 1", "__STDC_HOSTED__ 1", "__STDC_UTF_16__ 1", "__STDC_UTF_32__ 1",
   "__GNUC__ 12", "__GNUC_MINOR__ 2", "__GNUC_PATCHLEVEL__ 0",
   "__VERSION__ \"" ++ compilerVersion ++ "\"",
   "__ATOMIC_RELAXED 0", "__ATOMIC_SEQ_CST 5", "__ATOMIC_ACQUIRE 2", "__ATOMIC_RELEASE 3",
   "__ATOMIC_ACQ_REL 4", "__ATOMIC_CONSUME 1",
   "_LP64 1", "__LP64__ 1",
   "__SIZEOF_INT__ 4", "__SIZEOF_LONG__ 8", "__SIZEOF_LONG_LONG__ 8", "__SIZEOF_SHORT__ 2",
   "__SIZEOF_FLOAT__ 4", "__SIZEOF_DOUBLE__ 8", "__SIZEOF_LONG_DOUBLE__ 16",
   "__SIZEOF_SIZE_T__ 8", "__CHAR_BIT__ 8", "__BIGGEST_ALIGNMENT__ 16",
   "__ORDER_LITTLE_ENDIAN__ 1234", "__ORDER_BIG_ENDIAN__ 4321", "__ORDER_PDP_ENDIAN__ 3412",
   "__BYTE_ORDER__ __ORDER_LITTLE_ENDIAN__", "__FLOAT_WORD_ORDER__ __ORDER_LITTLE_ENDIAN__",
   "__SIZEOF_POINTER__ 8", "__GNUC_EXECUTION_CHARSET_NAME \"UTF-8\"",
   "__GNUC_WIDE_EXECUTION_CHARSET_NAME \"UTF-32LE\"",
   "__SIZE_TYPE__ long unsigned int", "__PTRDIFF_TYPE__ long int",
   "__WINT_TYPE__ unsigned int", "__INTMAX_TYPE__ long int",
   "__UINTMAX_TYPE__ long unsigned int", "__CHAR16_TYPE__ short unsigned int",
   "__CHAR32_TYPE__ unsigned int", "__SIG_ATOMIC_TYPE__ int", "__INT8_TYPE__ signed char",
   "__INT16_TYPE__ short int", "__INT32_TYPE__ int", "__INT64_TYPE__ long int",
   "__UINT8_TYPE__ unsigned char", "__UINT16_TYPE__ short unsigned int",
   "__UINT32_TYPE__ unsigned int", "__UINT64_TYPE__ long unsigned int",
   "__INT_LEAST8_TYPE__ signed char", "__INT_LEAST16_TYPE__ short int",
   "__INT_LEAST32_TYPE__ int", "__INT_LEAST64_TYPE__ long int",
   "__UINT_LEAST8_TYPE__ unsigned char", "__UINT_LEAST16_TYPE__ short unsigned int",
   "__UINT_LEAST32_TYPE__ unsigned int", "__UINT_LEAST64_TYPE__ long unsigned int",
   "__INT_FAST8_TYPE__ signed char", "__INT_FAST16_TYPE__ long int",
   "__INT_FAST32_TYPE__ long int", "__INT_FAST64_TYPE__ long int",
   "__UINT_FAST8_TYPE__ unsigned char", "__UINT_FAST16_TYPE__ long unsigned int",
   "__UINT_FAST32_TYPE__ long unsigned int", "__UINT_FAST64_TYPE__ long unsigned int",
   "__INTPTR_TYPE__ long int", "__UINTPTR_TYPE__ long unsigned int",
   "__GXX_ABI_VERSION 1017", "__SCHAR_MAX__ 0x7f", "__SHRT_MAX__ 0x7fff",
   "__INT_MAX__ 0x7fffffff", "__LONG_MAX__ 0x7fffffffffffffffL",
   "__LONG_LONG_MAX__ 0x7fffffffffffffffLL", "__WINT_MAX__ 0xffffffffU", "__WINT_MIN__ 0U",
   "__PTRDIFF_MAX__ 0x7fffffffffffffffL", "__SIZE_MAX__ 0xffffffffffffffffUL",
   "__SCHAR_WIDTH__ 8", "__SHRT_WIDTH__ 16", "__INT_WIDTH__ 32", "__LONG_WIDTH__ 64",
   "__LONG_LONG_WIDTH__ 64", "__WINT_WIDTH__ 32", "__PTRDIFF_WIDTH__ 64", "__SIZE_WIDTH__ 64",
   "__INTMAX_MAX__ 0x7fffffffffffffffL", "__INTMAX_C(c) c ## L",
   "__UINTMAX_MAX__ 0xffffffffffffffffUL", "__UINTMAX_C(c) c ## UL", "__INTMAX_WIDTH__ 64",
   "__SIG_ATOMIC_MAX__ 0x7fffffff", "__SIG_ATOMIC_MIN__ (-__SIG_ATOMIC_MAX__ - 1)",
   "__SIG_ATOMIC_WIDTH__ 32", "__INT8_MAX__ 0x7f", "__INT16_MAX__ 0x7fff",
   "__INT32_MAX__ 0x7fffffff", "__INT64_MAX__ 0x7fffffffffffffffL", "__UINT8_MAX__ 0xff",
   "__UINT16_MAX__ 0xffff", "__UINT32_MAX__ 0xffffffffU",
   "__UINT64_MAX__ 0xffffffffffffffffUL", "__INT_LEAST8_MAX__ 0x7f", "__INT8_C(c) c",
   "__INT_LEAST8_WIDTH__ 8", "__INT_LEAST16_MAX__ 0x7fff", "__INT16_C(c) c",
   "__INT_LEAST16_WIDTH__ 16", "__INT_LEAST32_MAX__ 0x7fffffff", "__INT32_C(c) c",
   "__INT_LEAST32_WIDTH__ 32", "__INT_LEAST64_MAX__ 0x7fffffffffffffffL",
   "__INT64_C(c) c ## L", "__INT_LEAST64_WIDTH__ 64", "__UINT_LEAST8_MAX__ 0xff",
   "__UINT8_C(c) c", "__UINT_LEAST16_MAX__ 0xffff", "__UINT16_C(c) c",
   "__UINT_LEAST32_MAX__ 0xffffffffU", "__UINT32_C(c) c ## U",
   "__UINT_LEAST64_MAX__ 0xffffffffffffffffUL", "__UINT64_C(c) c ## UL",
   "__INT_FAST8_MAX__ 0x7f", "__INT_FAST8_WIDTH__ 8",
   "__INT_FAST16_MAX__ 0x7fffffffffffffffL", "__INT_FAST16_WIDTH__ 64",
   "__INT_FAST32_MAX__ 0x7fffffffffffffffL", "__INT_FAST32_WIDTH__ 64",
   "__INT_FAST64_MAX__ 0x7fffffffffffffffL", "__INT_FAST64_WIDTH__ 64",
   "__UINT_FAST8_MAX__ 0xff", "__UINT_FAST16_MAX__ 0xffffffffffffffffUL",
   "__UINT_FAST32_MAX__ 0xffffffffffffffffUL", "__UINT_FAST64_MAX__ 0xffffffffffffffffUL",
   "__INTPTR_MAX__ 0x7fffffffffffffffL", "__INTPTR_WIDTH__ 64",
   "__UINTPTR_MAX__ 0xffffffffffffffffUL", "__GCC_IEC_559_COMPLEX 2",
   "__FLT_EVAL_METHOD__ 0", "__FLT_EVAL_METHOD_TS_18661_3__ 0", "__DEC_EVAL_METHOD__ 2",
   "__FLT_RADIX__ 2", "__FLT_MANT_DIG__ 24", "__FLT_DIG__ 6", "__FLT_MIN_EXP__ (-125)",
   "__FLT_MIN_10_EXP__ (-37)", "__FLT_MAX_EXP__ 128", "__FLT_MAX_10_EXP__ 38",
   "__FLT_DECIMAL_DIG__ 9", "__FLT_MAX__ 3.40282346638528859811704183484516925e+38F",
   "__FLT_NORM_MAX__ 3.40282346638528859811704183484516925e+38F",
   "__FLT_MIN__ 1.17549435082228750796873653722224568e-38F",
   "__FLT_EPSILON__ 1.19209289550781250000000000000000000e-7F",
   "__FLT_DENORM_MIN__ 1.40129846432481707092372958328991613e-45F",
   "__FLT_HAS_DENORM__ 1", "__FLT_HAS_INFINITY__ 1", "__FLT_HAS_QUIET_NAN__ 1",
   "__FLT_IS_IEC_60559__ 2", "__DBL_MANT_DIG__ 53", "__DBL_DIG__ 15",
   "__DBL_MIN_EXP__ (-1021)", "__DBL_MIN_10_EXP__ (-307)", "__DBL_MAX_EXP__ 1024",
   "__DBL_MAX_10_EXP__ 308", "__DBL_DECIMAL_DIG__ 17",
   "__DBL_MAX__ ((double)1.79769313486231570814527423731704357e+308L)",
   "__DBL_NORM_MAX__ ((double)1.79769313486231570814527423731704357e+308L)",
   "__DBL_MIN__ ((double)2.22507385850720138309023271733240406e-308L)",
   "__DBL_EPSILON__ ((double)2.22044604925031308084726333618164062e-16L)",
   "__DBL_DENORM_MIN__ ((double)4.94065645841246544176568792868221372e-324L)",
   "__DBL_HAS_DENORM__ 1", "__DBL_HAS_INFINITY__ 1", "__DBL_HAS_QUIET_NAN__ 1",
   "__DBL_IS_IEC_60559__ 2", "__LDBL_MANT_DIG__ 64", "__LDBL_DIG__ 18",
   "__LDBL_MIN_EXP__ (-16381)", "__LDBL_MIN_10_EXP__ (-4931)", "__LDBL_MAX_EXP__ 16384",
   "__LDBL_MAX_10_EXP__ 4932", "__DECIMAL_DIG__ 21", "__LDBL_DECIMAL_DIG__ 21",
   "__LDBL_MAX__ 1.18973149535723176502126385303097021e+4932L",
   "__LDBL_NORM_MAX__ 1.18973149535723176502126385303097021e+4932L",
   "__LDBL_MIN__ 3.36210314311209350626267781732175260e-4932L",
   "__LDBL_EPSILON__ 1.08420217248550443400745280086994171e-19L",
   "__LDBL_DENORM_MIN__ 3.64519953188247460252840593361941982e-4951L",
   "__LDBL_HAS_DENORM__ 1", "__LDBL_HAS_INFINITY__ 1", "__LDBL_HAS_QUIET_NAN__ 1",
   "__LDBL_IS_IEC_60559__ 2",
   "__FLT32_MANT_DIG__ 24", "__FLT32_DIG__ 6", "__FLT32_MAX__ 3.40282346638528859811704183484516925e+38F32",
   "__FLT64_MANT_DIG__ 53", "__FLT64_DIG__ 15", "__FLT64_MAX__ 1.79769313486231570814527423731704357e+308F64",
   "__FLT128_MANT_DIG__ 113", "__FLT128_DIG__ 33",
   "__FLT32X_MANT_DIG__ 53", "__FLT64X_MANT_DIG__ 64",
   "__REGISTER_PREFIX__ ", "__USER_LABEL_PREFIX__ ", "__GNUC_STDC_INLINE__ 1",
   "__GCC_HAVE_SYNC_COMPARE_AND_SWAP_1 1", "__GCC_HAVE_SYNC_COMPARE_AND_SWAP_2 1",
   "__GCC_HAVE_SYNC_COMPARE_AND_SWAP_4 1", "__GCC_HAVE_SYNC_COMPARE_AND_SWAP_8 1",
   "__GCC_ATOMIC_BOOL_LOCK_FREE 2", "__GCC_ATOMIC_CHAR_LOCK_FREE 2",
   "__GCC_ATOMIC_CHAR16_T_LOCK_FREE 2", "__GCC_ATOMIC_CHAR32_T_LOCK_FREE 2",
   "__GCC_ATOMIC_WCHAR_T_LOCK_FREE 2", "__GCC_ATOMIC_SHORT_LOCK_FREE 2",
   "__GCC_ATOMIC_INT_LOCK_FREE 2", "__GCC_ATOMIC_LONG_LOCK_FREE 2",
   "__GCC_ATOMIC_LLONG_LOCK_FREE 2", "__GCC_ATOMIC_TEST_AND_SET_TRUEVAL 1",
   "__GCC_ATOMIC_POINTER_LOCK_FREE 2", "__HAVE_SPECULATION_SAFE_VALUE 1",
   "__GCC_HAVE_DWARF2_CFI_ASM 1", "__PRAGMA_REDEFINE_EXTNAME 1", "__SSP_STRONG__ 3",
   "__SIZEOF_INT128__ 16", "__SIZEOF_WINT_T__ 4", "__SIZEOF_PTRDIFF_T__ 8",
   "__amd64 1", "__amd64__ 1", "__x86_64 1", "__x86_64__ 1", "__SIZEOF_FLOAT80__ 16",
   "__SIZEOF_FLOAT128__ 16", "__ATOMIC_HLE_ACQUIRE 65536", "__ATOMIC_HLE_RELEASE 131072",
   "__GCC_ASM_FLAG_OUTPUTS__ 1", "__k8 1", "__k8__ 1", "__code_model_small__ 1",
   "__MMX__ 1", "__SSE__ 1", "__SSE2__ 1", "__FXSR__ 1", "__SSE_MATH__ 1", "__SSE2_MATH__ 1",
   "__MMX_WITH_SSE__ 1", "__SEG_FS 1", "__SEG_GS 1", "__CET__ 3", "__gnu_linux__ 1",
   "__ELF__ 1", "__DECIMAL_BID_FORMAT__ 1"]

/-- The predefined macros of a compilation, as the text of `#define` lines. -/
def predefinedMacros (o : Options) : List String :=
  let defs := fixedMacros ++
    (match o.standard.version with
      | some v => ["__STDC_VERSION__ " ++ v]
      | none => []) ++
    (if o.gnu then [] else ["__STRICT_ANSI__ 1"]) ++
    (if o.optLevel > 0 then ["__OPTIMIZE__ 1"] else ["__NO_INLINE__ 1"]) ++
    (if o.optSize then ["__OPTIMIZE_SIZE__ 1"] else []) ++
    (if o.pic > 0 then ["__pic__ " ++ toString o.pic, "__PIC__ " ++ toString o.pic]
     else if o.pie > 0 then ["__pic__ " ++ toString o.pie, "__PIC__ " ++ toString o.pie,
                              "__pie__ " ++ toString o.pie, "__PIE__ " ++ toString o.pie]
     else []) ++
    (if o.unsignedChar then ["__CHAR_UNSIGNED__ 1"] else []) ++
    (if o.fastMath then ["__FAST_MATH__ 1", "__NO_MATH_ERRNO__ 1", "__GCC_IEC_559 0"]
     else ["__GCC_IEC_559 2"]) ++
    ["__FINITE_MATH_ONLY__ " ++ (if o.finiteMath then "1" else "0")] ++
    (if o.shortWchar then
      ["__WCHAR_TYPE__ short unsigned int", "__WCHAR_MAX__ 0xffff", "__WCHAR_MIN__ 0",
       "__SIZEOF_WCHAR_T__ 2", "__WCHAR_WIDTH__ 16"]
     else
      ["__WCHAR_TYPE__ int", "__WCHAR_MAX__ 0x7fffffff", "__WCHAR_MIN__ (-__WCHAR_MAX__ - 1)",
       "__SIZEOF_WCHAR_T__ 4", "__WCHAR_WIDTH__ 32"]) ++
    (if o.systemMacros then
      ["__linux 1", "__linux__ 1", "__unix 1", "__unix__ 1"] ++
        (if o.gnu then ["linux 1", "unix 1"] else [])
     else []) ++
    ["__has_include __has_include", "__has_include_next __has_include_next",
     "__has_builtin __has_builtin", "__has_attribute __has_attribute",
     "__has_c_attribute __has_c_attribute", "__has_cpp_attribute __has_cpp_attribute"]
  defs.map ("#define " ++ ·)

end InlineC.Lang
