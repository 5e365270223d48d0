import InlineC.Lang.Header.Core
/-!
# Header texts: extra

The texts of the other standard and system headers a source may include, as the
compiler reads them when a source includes them by name.
-/

namespace InlineC.Lang.Header

/-- The text of `<math.h>`. -/
def mathText : String :=
  ofLines [
    "#ifndef _MATH_H",
    "#define _MATH_H 1",
    "#include <features.h>",
    "#define HUGE_VAL (__builtin_huge_val ())",
    "#ifdef __USE_ISOC99",
    "# define HUGE_VALF (__builtin_huge_valf ())",
    "# define HUGE_VALL (__builtin_huge_vall ())",
    "# define INFINITY (__builtin_inff ())",
    "# define NAN (__builtin_nanf (\"\"))",
    "typedef float float_t;",
    "typedef double double_t;",
    "# define FP_ILOGB0 (-2147483647 - 1)",
    "# define FP_ILOGBNAN (-2147483647 - 1)",
    "# define __FP_LOGB0_IS_MIN 1",
    "# define __FP_LOGBNAN_IS_MIN 1",
    "# define FP_FAST_FMA 1",
    "# define FP_FAST_FMAF 1",
    "# define FP_FAST_FMAL 1",
    "#endif",
    "#define __MATHDECL_ALL(type, name, args) \\",
    "extern type name args __THROW; \\",
    "extern float name##f args __THROW; \\",
    "extern long double name##l args __THROW;",
    "#define __MATHDECL3(name, a1) \\",
    "extern double name (double a1) __THROW; \\",
    "extern float name##f (float a1) __THROW; \\",
    "extern long double name##l (long double a1) __THROW;",
    "#define __MATHDECL3_2(name) \\",
    "extern double name (double __x, double __y) __THROW; \\",
    "extern float name##f (float __x, float __y) __THROW; \\",
    "extern long double name##l (long double __x, long double __y) __THROW;",
    "__MATHDECL3 (acos, __x)",
    "__MATHDECL3 (asin, __x)",
    "__MATHDECL3 (atan, __x)",
    "__MATHDECL3_2 (atan2)",
    "__MATHDECL3 (cos, __x)",
    "__MATHDECL3 (sin, __x)",
    "__MATHDECL3 (tan, __x)",
    "__MATHDECL3 (cosh, __x)",
    "__MATHDECL3 (sinh, __x)",
    "__MATHDECL3 (tanh, __x)",
    "#ifdef __USE_GNU",
    "extern void sincos (double __x, double *__sinx, double *__cosx) __THROW;",
    "extern void sincosf (float __x, float *__sinx, float *__cosx) __THROW;",
    "extern void sincosl (long double __x, long double *__sinx, long double *__cosx) __THROW;",
    "extern double exp10 (double __x) __THROW;",
    "#endif",
    "#if defined __USE_XOPEN_EXTENDED || defined __USE_ISOC99",
    "__MATHDECL3 (acosh, __x)",
    "__MATHDECL3 (asinh, __x)",
    "__MATHDECL3 (atanh, __x)",
    "#endif",
    "__MATHDECL3 (exp, __x)",
    "extern double frexp (double __x, int *__exponent) __THROW;",
    "extern float frexpf (float __x, int *__exponent) __THROW;",
    "extern long double frexpl (long double __x, int *__exponent) __THROW;",
    "extern double ldexp (double __x, int __exponent) __THROW;",
    "extern float ldexpf (float __x, int __exponent) __THROW;",
    "extern long double ldexpl (long double __x, int __exponent) __THROW;",
    "__MATHDECL3 (log, __x)",
    "__MATHDECL3 (log10, __x)",
    "extern double modf (double __x, double *__iptr) __THROW __nonnull ((2));",
    "extern float modff (float __x, float *__iptr) __THROW __nonnull ((2));",
    "extern long double modfl (long double __x, long double *__iptr) __THROW __nonnull ((2));",
    "#if defined __USE_XOPEN_EXTENDED || defined __USE_ISOC99",
    "__MATHDECL3 (expm1, __x)",
    "__MATHDECL3 (log1p, __x)",
    "__MATHDECL3 (logb, __x)",
    "#endif",
    "#ifdef __USE_ISOC99",
    "__MATHDECL3 (exp2, __x)",
    "__MATHDECL3 (log2, __x)",
    "#endif",
    "__MATHDECL3_2 (pow)",
    "__MATHDECL3 (sqrt, __x)",
    "#if defined __USE_XOPEN || defined __USE_ISOC99",
    "__MATHDECL3_2 (hypot)",
    "#endif",
    "#if defined __USE_XOPEN_EXTENDED || defined __USE_ISOC99",
    "__MATHDECL3 (cbrt, __x)",
    "#endif",
    "__MATHDECL3 (ceil, __x)",
    "__MATHDECL3 (fabs, __x)",
    "__MATHDECL3 (floor, __x)",
    "__MATHDECL3_2 (fmod)",
    "#ifdef __USE_MISC",
    "extern int isinf (double __value) __THROW __attribute__ ((__const__));",
    "extern int finite (double __value) __THROW __attribute__ ((__const__));",
    "__MATHDECL3_2 (drem)",
    "__MATHDECL3 (significand, __x)",
    "#endif",
    "#ifdef __USE_ISOC99",
    "__MATHDECL3_2 (copysign)",
    "extern double nan (const char *__tagb) __THROW;",
    "extern float nanf (const char *__tagb) __THROW;",
    "extern long double nanl (const char *__tagb) __THROW;",
    "#endif",
    "#if defined __USE_MISC || (defined __USE_XOPEN && !defined __USE_XOPEN2K)",
    "extern int isnan (double __value) __THROW __attribute__ ((__const__));",
    "#endif",
    "#if defined __USE_MISC || (defined __USE_XOPEN && !defined __USE_XOPEN2K)",
    "__MATHDECL3 (j0, __x)",
    "__MATHDECL3 (j1, __x)",
    "__MATHDECL3 (y0, __x)",
    "__MATHDECL3 (y1, __x)",
    "extern double jn (int, double) __THROW;",
    "extern double yn (int, double) __THROW;",
    "#endif",
    "#if defined __USE_XOPEN || defined __USE_ISOC99",
    "__MATHDECL3 (erf, __x)",
    "__MATHDECL3 (erfc, __x)",
    "__MATHDECL3 (lgamma, __x)",
    "#endif",
    "#ifdef __USE_ISOC99",
    "__MATHDECL3 (tgamma, __x)",
    "#endif",
    "#if defined __USE_MISC || (defined __USE_XOPEN && !defined __USE_XOPEN2K)",
    "__MATHDECL3 (gamma, __x)",
    "#endif",
    "#ifdef __USE_MISC",
    "extern double lgamma_r (double, int *__signgamp) __THROW;",
    "#endif",
    "#if defined __USE_XOPEN_EXTENDED || defined __USE_ISOC99",
    "__MATHDECL3 (rint, __x)",
    "__MATHDECL3_2 (nextafter)",
    "# if defined __USE_ISOC99",
    "extern double nexttoward (double __x, long double __y) __THROW;",
    "extern float nexttowardf (float __x, long double __y) __THROW;",
    "extern long double nexttowardl (long double __x, long double __y) __THROW;",
    "# endif",
    "__MATHDECL3_2 (remainder)",
    "extern double scalbn (double __x, int __n) __THROW;",
    "extern float scalbnf (float __x, int __n) __THROW;",
    "extern long double scalbnl (long double __x, int __n) __THROW;",
    "extern int ilogb (double __x) __THROW;",
    "extern int ilogbf (float __x) __THROW;",
    "extern int ilogbl (long double __x) __THROW;",
    "#endif",
    "#ifdef __USE_ISOC99",
    "extern double scalbln (double __x, long int __n) __THROW;",
    "extern float scalblnf (float __x, long int __n) __THROW;",
    "extern long double scalblnl (long double __x, long int __n) __THROW;",
    "__MATHDECL3 (nearbyint, __x)",
    "__MATHDECL3 (round, __x)",
    "__MATHDECL3 (trunc, __x)",
    "extern double remquo (double __x, double __y, int *__quo) __THROW;",
    "extern float remquof (float __x, float __y, int *__quo) __THROW;",
    "extern long double remquol (long double __x, long double __y, int *__quo) __THROW;",
    "extern long int lrint (double __x) __THROW;",
    "extern long int lrintf (float __x) __THROW;",
    "extern long int lrintl (long double __x) __THROW;",
    "__extension__ extern long long int llrint (double __x) __THROW;",
    "__extension__ extern long long int llrintf (float __x) __THROW;",
    "__extension__ extern long long int llrintl (long double __x) __THROW;",
    "extern long int lround (double __x) __THROW;",
    "extern long int lroundf (float __x) __THROW;",
    "extern long int lroundl (long double __x) __THROW;",
    "__extension__ extern long long int llround (double __x) __THROW;",
    "__extension__ extern long long int llroundf (float __x) __THROW;",
    "__extension__ extern long long int llroundl (long double __x) __THROW;",
    "__MATHDECL3_2 (fdim)",
    "__MATHDECL3_2 (fmax)",
    "__MATHDECL3_2 (fmin)",
    "extern double fma (double __x, double __y, double __z) __THROW;",
    "extern float fmaf (float __x, float __y, float __z) __THROW;",
    "extern long double fmal (long double __x, long double __y, long double __z) __THROW;",
    "#endif",
    "#if defined __USE_MISC || (defined __USE_XOPEN_EXTENDED && !defined __USE_XOPEN2K8)",
    "extern double scalb (double __x, double __n) __THROW;",
    "#endif",
    "#if defined __USE_MISC || defined __USE_XOPEN",
    "extern int signgam;",
    "#endif",
    "#ifdef __USE_ISOC99",
    "enum",
    "\x7b",
    "FP_NAN =",
    "# define FP_NAN 0",
    "FP_NAN,",
    "FP_INFINITE =",
    "# define FP_INFINITE 1",
    "FP_INFINITE,",
    "FP_ZERO =",
    "# define FP_ZERO 2",
    "FP_ZERO,",
    "FP_SUBNORMAL =",
    "# define FP_SUBNORMAL 3",
    "FP_SUBNORMAL,",
    "FP_NORMAL =",
    "# define FP_NORMAL 4",
    "FP_NORMAL",
    "\x7d;",
    "# define fpclassify(x) __builtin_fpclassify (FP_NAN, FP_INFINITE, FP_NORMAL, FP_SUBNORMAL, FP_ZERO, x)",
    "# define signbit(x) __builtin_signbit (x)",
    "# define isfinite(x) __builtin_isfinite (x)",
    "# define isnormal(x) __builtin_isnormal (x)",
    "# define isnan(x) __builtin_isnan (x)",
    "# define isinf(x) __builtin_isinf_sign (x)",
    "# define MATH_ERRNO 1",
    "# define MATH_ERREXCEPT 2",
    "# ifdef __FAST_MATH__",
    "#  define math_errhandling (MATH_ERREXCEPT)",
    "# else",
    "#  define math_errhandling (MATH_ERRNO | MATH_ERREXCEPT)",
    "# endif",
    "#endif",
    "#if defined __USE_MISC || defined __USE_XOPEN",
    "# define M_E 2.7182818284590452354",
    "# define M_LOG2E 1.4426950408889634074",
    "# define M_LOG10E 0.43429448190325182765",
    "# define M_LN2 0.69314718055994530942",
    "# define M_LN10 2.30258509299404568402",
    "# define M_PI 3.14159265358979323846",
    "# define M_PI_2 1.57079632679489661923",
    "# define M_PI_4 0.78539816339744830962",
    "# define M_1_PI 0.31830988618379067154",
    "# define M_2_PI 0.63661977236758134308",
    "# define M_2_SQRTPI 1.12837916709551257390",
    "# define M_SQRT2 1.41421356237309504880",
    "# define M_SQRT1_2 0.70710678118654752440",
    "#endif",
    "#ifdef __USE_GNU",
    "# define M_El 2.718281828459045235360287471352662498L",
    "# define M_PIl 3.141592653589793238462643383279502884L",
    "#endif",
    "#ifdef __USE_ISOC99",
    "# define isgreater(x, y) __builtin_isgreater(x, y)",
    "# define isgreaterequal(x, y) __builtin_isgreaterequal(x, y)",
    "# define isless(x, y) __builtin_isless(x, y)",
    "# define islessequal(x, y) __builtin_islessequal(x, y)",
    "# define islessgreater(x, y) __builtin_islessgreater(x, y)",
    "# define isunordered(x, y) __builtin_isunordered(x, y)",
    "#endif",
    "#endif"]

/-- The text of `<ctype.h>`. -/
def ctypeText : String :=
  ofLines [
    "#ifndef _CTYPE_H",
    "#define _CTYPE_H 1",
    "#include <features.h>",
    "#include <bits/types.h>",
    "# define _ISbit(bit) ((bit) < 8 ? ((1 << (bit)) << 8) : ((1 << (bit)) >> 8))",
    "enum",
    "\x7b",
    "_ISupper = _ISbit (0),",
    "_ISlower = _ISbit (1),",
    "_ISalpha = _ISbit (2),",
    "_ISdigit = _ISbit (3),",
    "_ISxdigit = _ISbit (4),",
    "_ISspace = _ISbit (5),",
    "_ISprint = _ISbit (6),",
    "_ISgraph = _ISbit (7),",
    "_ISblank = _ISbit (8),",
    "_IScntrl = _ISbit (9),",
    "_ISpunct = _ISbit (10),",
    "_ISalnum = _ISbit (11)",
    "\x7d;",
    "extern const unsigned short int **__ctype_b_loc (void) __THROW __attribute__ ((__const__));",
    "extern const __int32_t **__ctype_tolower_loc (void) __THROW __attribute__ ((__const__));",
    "extern const __int32_t **__ctype_toupper_loc (void) __THROW __attribute__ ((__const__));",
    "#define __isctype(c, type) ((*__ctype_b_loc ())[(int) (c)] & (unsigned short int) type)",
    "#define __isascii(c) (((c) & ~0x7f) == 0)",
    "#define __toascii(c) ((c) & 0x7f)",
    "extern int isalnum (int) __THROW;",
    "extern int isalpha (int) __THROW;",
    "extern int iscntrl (int) __THROW;",
    "extern int isdigit (int) __THROW;",
    "extern int islower (int) __THROW;",
    "extern int isgraph (int) __THROW;",
    "extern int isprint (int) __THROW;",
    "extern int ispunct (int) __THROW;",
    "extern int isspace (int) __THROW;",
    "extern int isupper (int) __THROW;",
    "extern int isxdigit (int) __THROW;",
    "extern int tolower (int __c) __THROW;",
    "extern int toupper (int __c) __THROW;",
    "#ifdef __USE_ISOC99",
    "extern int isblank (int) __THROW;",
    "#endif",
    "#if defined __USE_MISC || defined __USE_XOPEN",
    "extern int isascii (int __c) __THROW;",
    "extern int toascii (int __c) __THROW;",
    "extern int _toupper (int) __THROW;",
    "extern int _tolower (int) __THROW;",
    "#endif",
    "# define isalnum(c) __isctype((c), _ISalnum)",
    "# define isalpha(c) __isctype((c), _ISalpha)",
    "# define iscntrl(c) __isctype((c), _IScntrl)",
    "# define isdigit(c) __isctype((c), _ISdigit)",
    "# define islower(c) __isctype((c), _ISlower)",
    "# define isgraph(c) __isctype((c), _ISgraph)",
    "# define isprint(c) __isctype((c), _ISprint)",
    "# define ispunct(c) __isctype((c), _ISpunct)",
    "# define isspace(c) __isctype((c), _ISspace)",
    "# define isupper(c) __isctype((c), _ISupper)",
    "# define isxdigit(c) __isctype((c), _ISxdigit)",
    "# ifdef __USE_ISOC99",
    "#  define isblank(c) __isctype((c), _ISblank)",
    "# endif",
    "#if defined __OPTIMIZE__ && !defined __OPTIMIZE_SIZE__ && !defined __NO_INLINE__",
    "__extension__ extern __inline __attribute__ ((__gnu_inline__)) int",
    "__attribute__ ((__nothrow__ , __leaf__)) tolower (int __c)",
    "\x7b",
    "return __c >= -128 && __c < 256 ? (*__ctype_tolower_loc ())[__c] : __c;",
    "\x7d",
    "__extension__ extern __inline __attribute__ ((__gnu_inline__)) int",
    "__attribute__ ((__nothrow__ , __leaf__)) toupper (int __c)",
    "\x7b",
    "return __c >= -128 && __c < 256 ? (*__ctype_toupper_loc ())[__c] : __c;",
    "\x7d",
    "#endif",
    "#if defined __USE_MISC || defined __USE_XOPEN",
    "# define isascii(c) __isascii (c)",
    "# define toascii(c) __toascii (c)",
    "# define _tolower(c) ((int) (*__ctype_tolower_loc ())[(int) (c)])",
    "# define _toupper(c) ((int) (*__ctype_toupper_loc ())[(int) (c)])",
    "#endif",
    "#endif"]

/-- The text of `<errno.h>`. -/
def errnoText : String :=
  ofLines [
    "#ifndef _ERRNO_H",
    "#define _ERRNO_H 1",
    "#include <features.h>",
    "#define EPERM 1",
    "#define ENOENT 2",
    "#define ESRCH 3",
    "#define EINTR 4",
    "#define EIO 5",
    "#define ENXIO 6",
    "#define E2BIG 7",
    "#define ENOEXEC 8",
    "#define EBADF 9",
    "#define ECHILD 10",
    "#define EAGAIN 11",
    "#define ENOMEM 12",
    "#define EACCES 13",
    "#define EFAULT 14",
    "#define ENOTBLK 15",
    "#define EBUSY 16",
    "#define EEXIST 17",
    "#define EXDEV 18",
    "#define ENODEV 19",
    "#define ENOTDIR 20",
    "#define EISDIR 21",
    "#define EINVAL 22",
    "#define ENFILE 23",
    "#define EMFILE 24",
    "#define ENOTTY 25",
    "#define ETXTBSY 26",
    "#define EFBIG 27",
    "#define ENOSPC 28",
    "#define ESPIPE 29",
    "#define EROFS 30",
    "#define EMLINK 31",
    "#define EPIPE 32",
    "#define EDOM 33",
    "#define ERANGE 34",
    "#define EDEADLK 35",
    "#define ENAMETOOLONG 36",
    "#define ENOLCK 37",
    "#define ENOSYS 38",
    "#define ENOTEMPTY 39",
    "#define ELOOP 40",
    "#define EWOULDBLOCK EAGAIN",
    "#define ENOMSG 42",
    "#define EIDRM 43",
    "#define ENOSTR 60",
    "#define ENODATA 61",
    "#define ETIME 62",
    "#define ENOSR 63",
    "#define ENOLINK 67",
    "#define EPROTO 71",
    "#define EMULTIHOP 72",
    "#define EBADMSG 74",
    "#define EOVERFLOW 75",
    "#define EILSEQ 84",
    "#define EUSERS 87",
    "#define ENOTSOCK 88",
    "#define EDESTADDRREQ 89",
    "#define EMSGSIZE 90",
    "#define EPROTOTYPE 91",
    "#define ENOPROTOOPT 92",
    "#define EPROTONOSUPPORT 93",
    "#define ESOCKTNOSUPPORT 94",
    "#define EOPNOTSUPP 95",
    "#define ENOTSUP EOPNOTSUPP",
    "#define EPFNOSUPPORT 96",
    "#define EAFNOSUPPORT 97",
    "#define EADDRINUSE 98",
    "#define EADDRNOTAVAIL 99",
    "#define ENETDOWN 100",
    "#define ENETUNREACH 101",
    "#define ENETRESET 102",
    "#define ECONNABORTED 103",
    "#define ECONNRESET 104",
    "#define ENOBUFS 105",
    "#define EISCONN 106",
    "#define ENOTCONN 107",
    "#define ESHUTDOWN 108",
    "#define ETOOMANYREFS 109",
    "#define ETIMEDOUT 110",
    "#define ECONNREFUSED 111",
    "#define EHOSTDOWN 112",
    "#define EHOSTUNREACH 113",
    "#define EALREADY 114",
    "#define EINPROGRESS 115",
    "#define ESTALE 116",
    "#define EDQUOT 122",
    "#define ECANCELED 125",
    "#define EOWNERDEAD 130",
    "#define ENOTRECOVERABLE 131",
    "extern int *__errno_location (void) __THROW __attribute_const__;",
    "# define errno (*__errno_location ())",
    "#ifdef __USE_GNU",
    "extern char *program_invocation_name;",
    "extern char *program_invocation_short_name;",
    "#endif",
    "#endif"]

/-- The text of `<stdbool.h>`. -/
def stdboolText : String :=
  ofLines [
    "#ifndef _STDBOOL_H",
    "#define _STDBOOL_H",
    "#define bool _Bool",
    "#define true 1",
    "#define false 0",
    "#define __bool_true_false_are_defined 1",
    "#endif"]

/-- The text of `<iso646.h>`. -/
def iso646Text : String :=
  ofLines [
    "#ifndef _ISO646_H",
    "#define _ISO646_H",
    "#define and &&",
    "#define and_eq &=",
    "#define bitand &",
    "#define bitor |",
    "#define compl ~",
    "#define not !",
    "#define not_eq !=",
    "#define or ||",
    "#define or_eq |=",
    "#define xor ^",
    "#define xor_eq ^=",
    "#endif"]

/-- The text of `<stdalign.h>`. -/
def stdalignText : String :=
  ofLines [
    "#ifndef _STDALIGN_H",
    "#define _STDALIGN_H",
    "#define alignas _Alignas",
    "#define alignof _Alignof",
    "#define __alignas_is_defined 1",
    "#define __alignof_is_defined 1",
    "#endif"]

/-- The text of `<stdnoreturn.h>`. -/
def stdnoreturnText : String :=
  ofLines [
    "#ifndef _STDNORETURN_H",
    "#define _STDNORETURN_H",
    "#define noreturn _Noreturn",
    "#endif"]

/-- The text of `<assert.h>`. -/
def assertText : String :=
  ofLines [
    "#ifdef _ASSERT_H",
    "# undef _ASSERT_H",
    "# undef assert",
    "# undef __ASSERT_VOID_CAST",
    "#endif",
    "#define _ASSERT_H 1",
    "#include <features.h>",
    "#define __ASSERT_VOID_CAST (void)",
    "#ifdef NDEBUG",
    "# define assert(expr) (__ASSERT_VOID_CAST (0))",
    "#else",
    "extern void __assert_fail (const char *__assertion, const char *__file, unsigned int __line, const char *__function) __THROW __attribute__ ((__noreturn__));",
    "extern void __assert_perror_fail (int __errnum, const char *__file, unsigned int __line, const char *__function) __THROW __attribute__ ((__noreturn__));",
    "extern void __assert (const char *__assertion, const char *__file, int __line) __THROW __attribute__ ((__noreturn__));",
    "# define assert(expr) ((void) sizeof ((expr) ? 1 : 0), __extension__ (\x7b if (expr) ; else __assert_fail (#expr, __FILE__, __LINE__, __extension__ __PRETTY_FUNCTION__); \x7d))",
    "#endif",
    "#if defined __USE_ISOC11 && !defined __cplusplus",
    "# undef static_assert",
    "# define static_assert _Static_assert",
    "#endif"]

/-- The text of `<float.h>`. -/
def floatText : String :=
  ofLines [
    "#ifndef _FLOAT_H___",
    "#define _FLOAT_H___",
    "#define FLT_RADIX __FLT_RADIX__",
    "#define FLT_MANT_DIG __FLT_MANT_DIG__",
    "#define DBL_MANT_DIG __DBL_MANT_DIG__",
    "#define LDBL_MANT_DIG __LDBL_MANT_DIG__",
    "#define FLT_DIG __FLT_DIG__",
    "#define DBL_DIG __DBL_DIG__",
    "#define LDBL_DIG __LDBL_DIG__",
    "#define FLT_MIN_EXP __FLT_MIN_EXP__",
    "#define DBL_MIN_EXP __DBL_MIN_EXP__",
    "#define LDBL_MIN_EXP __LDBL_MIN_EXP__",
    "#define FLT_MIN_10_EXP __FLT_MIN_10_EXP__",
    "#define DBL_MIN_10_EXP __DBL_MIN_10_EXP__",
    "#define LDBL_MIN_10_EXP __LDBL_MIN_10_EXP__",
    "#define FLT_MAX_EXP __FLT_MAX_EXP__",
    "#define DBL_MAX_EXP __DBL_MAX_EXP__",
    "#define LDBL_MAX_EXP __LDBL_MAX_EXP__",
    "#define FLT_MAX_10_EXP __FLT_MAX_10_EXP__",
    "#define DBL_MAX_10_EXP __DBL_MAX_10_EXP__",
    "#define LDBL_MAX_10_EXP __LDBL_MAX_10_EXP__",
    "#define FLT_MAX __FLT_MAX__",
    "#define DBL_MAX __DBL_MAX__",
    "#define LDBL_MAX __LDBL_MAX__",
    "#define FLT_EPSILON __FLT_EPSILON__",
    "#define DBL_EPSILON __DBL_EPSILON__",
    "#define LDBL_EPSILON __LDBL_EPSILON__",
    "#define FLT_MIN __FLT_MIN__",
    "#define DBL_MIN __DBL_MIN__",
    "#define LDBL_MIN __LDBL_MIN__",
    "#define FLT_ROUNDS 1",
    "#if (defined (__STDC_VERSION__) && __STDC_VERSION__ >= 199901L)",
    "#define FLT_EVAL_METHOD __FLT_EVAL_METHOD__",
    "#define DECIMAL_DIG __DECIMAL_DIG__",
    "#endif",
    "#if (defined (__STDC_VERSION__) && __STDC_VERSION__ >= 201112L)",
    "#define FLT_DECIMAL_DIG __FLT_DECIMAL_DIG__",
    "#define DBL_DECIMAL_DIG __DBL_DECIMAL_DIG__",
    "#define LDBL_DECIMAL_DIG __LDBL_DECIMAL_DIG__",
    "#define FLT_HAS_SUBNORM __FLT_HAS_DENORM__",
    "#define DBL_HAS_SUBNORM __DBL_HAS_DENORM__",
    "#define LDBL_HAS_SUBNORM __LDBL_HAS_DENORM__",
    "#define FLT_TRUE_MIN __FLT_DENORM_MIN__",
    "#define DBL_TRUE_MIN __DBL_DENORM_MIN__",
    "#define LDBL_TRUE_MIN __LDBL_DENORM_MIN__",
    "#endif",
    "#endif"]

/-- The text of `<inttypes.h>`. -/
def inttypesText : String :=
  ofLines [
    "#ifndef _INTTYPES_H",
    "#define _INTTYPES_H 1",
    "#include <features.h>",
    "#include <stdint.h>",
    "#ifndef ____gwchar_t_defined",
    "# define __gwchar_t wchar_t",
    "typedef __WCHAR_TYPE__ __gwchar_t;",
    "# define ____gwchar_t_defined 1",
    "#endif",
    "# define __PRI64_PREFIX \"l\"",
    "# define __PRIPTR_PREFIX \"l\"",
    "# define PRId8 \"d\"",
    "# define PRId16 \"d\"",
    "# define PRId32 \"d\"",
    "# define PRId64 __PRI64_PREFIX \"d\"",
    "# define PRIdLEAST8 \"d\"",
    "# define PRIdLEAST16 \"d\"",
    "# define PRIdLEAST32 \"d\"",
    "# define PRIdLEAST64 __PRI64_PREFIX \"d\"",
    "# define PRIdFAST8 \"d\"",
    "# define PRIdFAST16 __PRIPTR_PREFIX \"d\"",
    "# define PRIdFAST32 __PRIPTR_PREFIX \"d\"",
    "# define PRIdFAST64 __PRI64_PREFIX \"d\"",
    "# define PRIi8 \"i\"",
    "# define PRIi16 \"i\"",
    "# define PRIi32 \"i\"",
    "# define PRIi64 __PRI64_PREFIX \"i\"",
    "# define PRIiLEAST8 \"i\"",
    "# define PRIiLEAST16 \"i\"",
    "# define PRIiLEAST32 \"i\"",
    "# define PRIiLEAST64 __PRI64_PREFIX \"i\"",
    "# define PRIiFAST8 \"i\"",
    "# define PRIiFAST16 __PRIPTR_PREFIX \"i\"",
    "# define PRIiFAST32 __PRIPTR_PREFIX \"i\"",
    "# define PRIiFAST64 __PRI64_PREFIX \"i\"",
    "# define PRIo8 \"o\"",
    "# define PRIo16 \"o\"",
    "# define PRIo32 \"o\"",
    "# define PRIo64 __PRI64_PREFIX \"o\"",
    "# define PRIoLEAST8 \"o\"",
    "# define PRIoLEAST16 \"o\"",
    "# define PRIoLEAST32 \"o\"",
    "# define PRIoLEAST64 __PRI64_PREFIX \"o\"",
    "# define PRIoFAST8 \"o\"",
    "# define PRIoFAST16 __PRIPTR_PREFIX \"o\"",
    "# define PRIoFAST32 __PRIPTR_PREFIX \"o\"",
    "# define PRIoFAST64 __PRI64_PREFIX \"o\"",
    "# define PRIu8 \"u\"",
    "# define PRIu16 \"u\"",
    "# define PRIu32 \"u\"",
    "# define PRIu64 __PRI64_PREFIX \"u\"",
    "# define PRIuLEAST8 \"u\"",
    "# define PRIuLEAST16 \"u\"",
    "# define PRIuLEAST32 \"u\"",
    "# define PRIuLEAST64 __PRI64_PREFIX \"u\"",
    "# define PRIuFAST8 \"u\"",
    "# define PRIuFAST16 __PRIPTR_PREFIX \"u\"",
    "# define PRIuFAST32 __PRIPTR_PREFIX \"u\"",
    "# define PRIuFAST64 __PRI64_PREFIX \"u\"",
    "# define PRIx8 \"x\"",
    "# define PRIx16 \"x\"",
    "# define PRIx32 \"x\"",
    "# define PRIx64 __PRI64_PREFIX \"x\"",
    "# define PRIxLEAST8 \"x\"",
    "# define PRIxLEAST16 \"x\"",
    "# define PRIxLEAST32 \"x\"",
    "# define PRIxLEAST64 __PRI64_PREFIX \"x\"",
    "# define PRIxFAST8 \"x\"",
    "# define PRIxFAST16 __PRIPTR_PREFIX \"x\"",
    "# define PRIxFAST32 __PRIPTR_PREFIX \"x\"",
    "# define PRIxFAST64 __PRI64_PREFIX \"x\"",
    "# define PRIX8 \"X\"",
    "# define PRIX16 \"X\"",
    "# define PRIX32 \"X\"",
    "# define PRIX64 __PRI64_PREFIX \"X\"",
    "# define PRIXLEAST8 \"X\"",
    "# define PRIXLEAST16 \"X\"",
    "# define PRIXLEAST32 \"X\"",
    "# define PRIXLEAST64 __PRI64_PREFIX \"X\"",
    "# define PRIXFAST8 \"X\"",
    "# define PRIXFAST16 __PRIPTR_PREFIX \"X\"",
    "# define PRIXFAST32 __PRIPTR_PREFIX \"X\"",
    "# define PRIXFAST64 __PRI64_PREFIX \"X\"",
    "# define PRIdMAX __PRI64_PREFIX \"d\"",
    "# define PRIiMAX __PRI64_PREFIX \"i\"",
    "# define PRIoMAX __PRI64_PREFIX \"o\"",
    "# define PRIuMAX __PRI64_PREFIX \"u\"",
    "# define PRIxMAX __PRI64_PREFIX \"x\"",
    "# define PRIXMAX __PRI64_PREFIX \"X\"",
    "# define PRIdPTR __PRIPTR_PREFIX \"d\"",
    "# define PRIiPTR __PRIPTR_PREFIX \"i\"",
    "# define PRIoPTR __PRIPTR_PREFIX \"o\"",
    "# define PRIuPTR __PRIPTR_PREFIX \"u\"",
    "# define PRIxPTR __PRIPTR_PREFIX \"x\"",
    "# define PRIXPTR __PRIPTR_PREFIX \"X\"",
    "# define SCNd8 \"hhd\"",
    "# define SCNd16 \"hd\"",
    "# define SCNd32 \"d\"",
    "# define SCNd64 __PRI64_PREFIX \"d\"",
    "# define SCNi8 \"hhi\"",
    "# define SCNi16 \"hi\"",
    "# define SCNi32 \"i\"",
    "# define SCNi64 __PRI64_PREFIX \"i\"",
    "# define SCNu8 \"hhu\"",
    "# define SCNu16 \"hu\"",
    "# define SCNu32 \"u\"",
    "# define SCNu64 __PRI64_PREFIX \"u\"",
    "# define SCNo8 \"hho\"",
    "# define SCNo16 \"ho\"",
    "# define SCNo32 \"o\"",
    "# define SCNo64 __PRI64_PREFIX \"o\"",
    "# define SCNx8 \"hhx\"",
    "# define SCNx16 \"hx\"",
    "# define SCNx32 \"x\"",
    "# define SCNx64 __PRI64_PREFIX \"x\"",
    "# define SCNdMAX __PRI64_PREFIX \"d\"",
    "# define SCNiMAX __PRI64_PREFIX \"i\"",
    "# define SCNoMAX __PRI64_PREFIX \"o\"",
    "# define SCNuMAX __PRI64_PREFIX \"u\"",
    "# define SCNxMAX __PRI64_PREFIX \"x\"",
    "# define SCNdPTR __PRIPTR_PREFIX \"d\"",
    "# define SCNiPTR __PRIPTR_PREFIX \"i\"",
    "# define SCNoPTR __PRIPTR_PREFIX \"o\"",
    "# define SCNuPTR __PRIPTR_PREFIX \"u\"",
    "# define SCNxPTR __PRIPTR_PREFIX \"x\"",
    "typedef struct \x7b long int quot; long int rem; \x7d imaxdiv_t;",
    "extern intmax_t imaxabs (intmax_t __n) __THROW __attribute__ ((__const__));",
    "extern imaxdiv_t imaxdiv (intmax_t __numer, intmax_t __denom) __THROW __attribute__ ((__const__));",
    "extern intmax_t strtoimax (const char *__restrict __nptr, char **__restrict __endptr, int __base) __THROW;",
    "extern uintmax_t strtoumax (const char *__restrict __nptr, char ** __restrict __endptr, int __base) __THROW;",
    "extern intmax_t wcstoimax (const __gwchar_t *__restrict __nptr, __gwchar_t **__restrict __endptr, int __base) __THROW;",
    "extern uintmax_t wcstoumax (const __gwchar_t *__restrict __nptr, __gwchar_t ** __restrict __endptr, int __base) __THROW;",
    "#endif"]

/-- The text of `<time.h>`. -/
def timeText : String :=
  ofLines [
    "#ifndef _TIME_H",
    "#define _TIME_H 1",
    "#include <features.h>",
    "#define __need_size_t",
    "#define __need_NULL",
    "#include <stddef.h>",
    "#include <bits/types.h>",
    "#define CLOCKS_PER_SEC ((__clock_t) 1000000)",
    "#if (!defined __STRICT_ANSI__ || defined __USE_POSIX) && !defined __USE_XOPEN2K",
    "# define CLK_TCK ((__clock_t) __sysconf (2))",
    "#endif",
    "#ifdef __USE_POSIX199309",
    "# define CLOCK_REALTIME 0",
    "# define CLOCK_MONOTONIC 1",
    "# define CLOCK_PROCESS_CPUTIME_ID 2",
    "# define CLOCK_THREAD_CPUTIME_ID 3",
    "# define TIMER_ABSTIME 1",
    "#endif",
    "#ifdef __USE_ISOC11",
    "# define TIME_UTC 1",
    "#endif",
    "#ifndef __clock_t_defined",
    "typedef __clock_t clock_t;",
    "# define __clock_t_defined 1",
    "#endif",
    "#ifndef __time_t_defined",
    "typedef __time_t time_t;",
    "# define __time_t_defined 1",
    "#endif",
    "struct tm",
    "\x7b",
    "int tm_sec;",
    "int tm_min;",
    "int tm_hour;",
    "int tm_mday;",
    "int tm_mon;",
    "int tm_year;",
    "int tm_wday;",
    "int tm_yday;",
    "int tm_isdst;",
    "long int tm_gmtoff;",
    "const char *tm_zone;",
    "\x7d;",
    "#ifdef __USE_POSIX199309",
    "# ifndef __clockid_t_defined",
    "typedef __clockid_t clockid_t;",
    "#  define __clockid_t_defined 1",
    "# endif",
    "# ifndef __timer_t_defined",
    "typedef __timer_t timer_t;",
    "#  define __timer_t_defined 1",
    "# endif",
    "struct itimerspec \x7b struct timespec it_interval; struct timespec it_value; \x7d;",
    "#endif",
    "extern clock_t clock (void) __THROW;",
    "extern time_t time (time_t *__timer) __THROW;",
    "extern double difftime (time_t __time1, time_t __time0) __THROW __attribute__ ((__const__));",
    "extern time_t mktime (struct tm *__tp) __THROW;",
    "extern size_t strftime (char *__restrict __s, size_t __maxsize, const char *__restrict __format, const struct tm *__restrict __tp) __THROW;",
    "extern struct tm *gmtime (const time_t *__timer) __THROW;",
    "extern struct tm *localtime (const time_t *__timer) __THROW;",
    "#ifdef __USE_POSIX",
    "extern struct tm *gmtime_r (const time_t *__restrict __timer, struct tm *__restrict __tp) __THROW;",
    "extern struct tm *localtime_r (const time_t *__restrict __timer, struct tm *__restrict __tp) __THROW;",
    "#endif",
    "extern char *asctime (const struct tm *__tp) __THROW;",
    "extern char *ctime (const time_t *__timer) __THROW;",
    "#ifdef __USE_POSIX",
    "extern char *asctime_r (const struct tm *__restrict __tp, char *__restrict __buf) __THROW;",
    "extern char *ctime_r (const time_t *__restrict __timer, char *__restrict __buf) __THROW;",
    "extern char *__tzname[2];",
    "extern int __daylight;",
    "extern long int __timezone;",
    "extern char *tzname[2];",
    "extern void tzset (void) __THROW;",
    "#endif",
    "#if defined __USE_MISC || defined __USE_XOPEN",
    "extern int daylight;",
    "extern long int timezone;",
    "#endif",
    "#define __isleap(year) ((year) % 4 == 0 && ((year) % 100 != 0 || (year) % 400 == 0))",
    "#ifdef __USE_POSIX199309",
    "extern int nanosleep (const struct timespec *__requested_time, struct timespec *__remaining);",
    "extern int clock_getres (clockid_t __clock_id, struct timespec *__res) __THROW;",
    "extern int clock_gettime (clockid_t __clock_id, struct timespec *__tp) __THROW;",
    "extern int clock_settime (clockid_t __clock_id, const struct timespec *__tp) __THROW;",
    "#endif",
    "#ifdef __USE_ISOC11",
    "extern int timespec_get (struct timespec *__ts, int __base) __THROW __nonnull ((1));",
    "#endif",
    "#endif"]

/-- The text of `<uchar.h>`. -/
def ucharText : String :=
  ofLines [
    "#ifndef _UCHAR_H",
    "#define _UCHAR_H 1",
    "#include <features.h>",
    "#define __need_size_t",
    "#include <stddef.h>",
    "#include <bits/types.h>",
    "typedef __mbstate_t mbstate_t;",
    "typedef __uint_least16_t char16_t;",
    "typedef __uint_least32_t char32_t;",
    "extern size_t mbrtoc16 (char16_t *__restrict __pc16, const char *__restrict __s, size_t __n, mbstate_t *__restrict __p) __THROW;",
    "extern size_t c16rtomb (char *__restrict __s, char16_t __c16, mbstate_t *__restrict __ps) __THROW;",
    "extern size_t mbrtoc32 (char32_t *__restrict __pc32, const char *__restrict __s, size_t __n, mbstate_t *__restrict __p) __THROW;",
    "extern size_t c32rtomb (char *__restrict __s, char32_t __c32, mbstate_t *__restrict __ps) __THROW;",
    "#endif"]

/-- The text of `<wchar.h>`. -/
def wcharText : String :=
  ofLines [
    "#ifndef _WCHAR_H",
    "#define _WCHAR_H 1",
    "#include <features.h>",
    "#define __need_size_t",
    "#define __need_wchar_t",
    "#define __need_NULL",
    "#include <stddef.h>",
    "#define __need___va_list",
    "#include <stdarg.h>",
    "#include <bits/types.h>",
    "#include <bits/wchar.h>",
    "typedef unsigned int wint_t;",
    "typedef __mbstate_t mbstate_t;",
    "#ifndef WCHAR_MIN",
    "# define WCHAR_MIN __WCHAR_MIN",
    "# define WCHAR_MAX __WCHAR_MAX",
    "#endif",
    "#ifndef WEOF",
    "# define WEOF (0xffffffffu)",
    "#endif",
    "struct tm;",
    "extern wchar_t *wcscpy (wchar_t *__restrict __dest, const wchar_t *__restrict __src) __THROW;",
    "extern wchar_t *wcsncpy (wchar_t *__restrict __dest, const wchar_t *__restrict __src, size_t __n) __THROW;",
    "extern wchar_t *wcscat (wchar_t *__restrict __dest, const wchar_t *__restrict __src) __THROW;",
    "extern wchar_t *wcsncat (wchar_t *__restrict __dest, const wchar_t *__restrict __src, size_t __n) __THROW;",
    "extern int wcscmp (const wchar_t *__s1, const wchar_t *__s2) __THROW __attribute_pure__;",
    "extern int wcsncmp (const wchar_t *__s1, const wchar_t *__s2, size_t __n) __THROW __attribute_pure__;",
    "extern wchar_t *wcschr (const wchar_t *__wcs, wchar_t __wc) __THROW __attribute_pure__;",
    "extern wchar_t *wcsrchr (const wchar_t *__wcs, wchar_t __wc) __THROW __attribute_pure__;",
    "extern size_t wcslen (const wchar_t *__s) __THROW __attribute_pure__;",
    "extern wchar_t *wcsstr (const wchar_t *__haystack, const wchar_t *__needle) __THROW __attribute_pure__;",
    "extern wchar_t *wmemchr (const wchar_t *__s, wchar_t __c, size_t __n) __THROW __attribute_pure__;",
    "extern int wmemcmp (const wchar_t *__s1, const wchar_t *__s2, size_t __n) __THROW __attribute_pure__;",
    "extern wchar_t *wmemcpy (wchar_t *__restrict __s1, const wchar_t *__restrict __s2, size_t __n) __THROW;",
    "extern wchar_t *wmemmove (wchar_t *__s1, const wchar_t *__s2, size_t __n) __THROW;",
    "extern wchar_t *wmemset (wchar_t *__s, wchar_t __c, size_t __n) __THROW;",
    "extern wint_t btowc (int __c) __THROW;",
    "extern int wctob (wint_t __c) __THROW;",
    "extern int mbsinit (const mbstate_t *__ps) __THROW __attribute_pure__;",
    "extern size_t mbrtowc (wchar_t *__restrict __pwc, const char *__restrict __s, size_t __n, mbstate_t *__restrict __p) __THROW;",
    "extern size_t wcrtomb (char *__restrict __s, wchar_t __wc, mbstate_t *__restrict __ps) __THROW;",
    "extern size_t mbrlen (const char *__restrict __s, size_t __n, mbstate_t *__restrict __ps) __THROW;",
    "extern long int wcstol (const wchar_t *__restrict __nptr, wchar_t **__restrict __endptr, int __base) __THROW;",
    "extern unsigned long int wcstoul (const wchar_t *__restrict __nptr, wchar_t **__restrict __endptr, int __base) __THROW;",
    "extern double wcstod (const wchar_t *__restrict __nptr, wchar_t **__restrict __endptr) __THROW;",
    "extern int swprintf (wchar_t *__restrict __s, size_t __n, const wchar_t *__restrict __format, ...) __THROW;",
    "extern int wprintf (const wchar_t *__restrict __format, ...);",
    "#endif"]

/-- The text of `<unistd.h>`. -/
def unistdText : String :=
  ofLines [
    "#ifndef _UNISTD_H",
    "#define _UNISTD_H 1",
    "#include <features.h>",
    "#define _POSIX_VERSION 200809L",
    "#define STDIN_FILENO 0",
    "#define STDOUT_FILENO 1",
    "#define STDERR_FILENO 2",
    "#include <bits/types.h>",
    "#define __need_size_t",
    "#define __need_NULL",
    "#include <stddef.h>",
    "#ifndef __ssize_t_defined",
    "typedef __ssize_t ssize_t;",
    "# define __ssize_t_defined",
    "#endif",
    "#ifndef __gid_t_defined",
    "typedef __gid_t gid_t;",
    "# define __gid_t_defined",
    "#endif",
    "#ifndef __uid_t_defined",
    "typedef __uid_t uid_t;",
    "# define __uid_t_defined",
    "#endif",
    "#ifndef __off_t_defined",
    "typedef __off_t off_t;",
    "# define __off_t_defined",
    "#endif",
    "#ifndef __pid_t_defined",
    "typedef __pid_t pid_t;",
    "# define __pid_t_defined",
    "#endif",
    "#ifndef __intptr_t_defined",
    "typedef __intptr_t intptr_t;",
    "# define __intptr_t_defined",
    "#endif",
    "#define R_OK 4",
    "#define W_OK 2",
    "#define X_OK 1",
    "#define F_OK 0",
    "extern int access (const char *__name, int __type) __THROW __nonnull ((1));",
    "extern __off_t lseek (int __fd, __off_t __offset, int __whence) __THROW;",
    "extern int close (int __fd);",
    "extern ssize_t read (int __fd, void *__buf, size_t __nbytes) __wur;",
    "extern ssize_t write (int __fd, const void *__buf, size_t __n) __wur;",
    "extern int pipe (int __pipedes[2]) __THROW __wur;",
    "extern unsigned int alarm (unsigned int __seconds) __THROW;",
    "extern unsigned int sleep (unsigned int __seconds);",
    "extern int usleep (__useconds_t __useconds);",
    "extern int pause (void);",
    "extern int chdir (const char *__path) __THROW __nonnull ((1)) __wur;",
    "extern char *getcwd (char *__buf, size_t __size) __THROW __wur;",
    "extern int dup (int __fd) __THROW __wur;",
    "extern int dup2 (int __fd, int __fd2) __THROW;",
    "extern char **__environ;",
    "extern int execv (const char *__path, char *const __argv[]) __THROW __nonnull ((1, 2));",
    "extern int execvp (const char *__file, char *const __argv[]) __THROW __nonnull ((1, 2));",
    "extern void _exit (int __status) __attribute__ ((__noreturn__));",
    "extern long int sysconf (int __name) __THROW;",
    "extern long int __sysconf (int __name) __THROW;",
    "extern __pid_t getpid (void) __THROW;",
    "extern __pid_t getppid (void) __THROW;",
    "extern __uid_t getuid (void) __THROW;",
    "extern __uid_t geteuid (void) __THROW;",
    "extern __gid_t getgid (void) __THROW;",
    "extern __gid_t getegid (void) __THROW;",
    "extern __pid_t fork (void) __THROWNL;",
    "extern int isatty (int __fd) __THROW;",
    "extern int unlink (const char *__name) __THROW __nonnull ((1));",
    "extern int rmdir (const char *__path) __THROW __nonnull ((1));",
    "extern int gethostname (char *__name, size_t __len) __THROW __nonnull ((1));",
    "extern int getpagesize (void) __THROW __attribute__ ((__const__));",
    "extern int fsync (int __fd);",
    "extern int ftruncate (int __fd, __off_t __length) __THROW __wur;",
    "extern void *sbrk (intptr_t __delta) __THROW;",
    "extern int getopt (int ___argc, char *const *___argv, const char *__shortopts) __THROW __nonnull ((2, 3));",
    "extern char *optarg;",
    "extern int optind, opterr, optopt;",
    "#define _SC_PAGESIZE 30",
    "#define _SC_NPROCESSORS_ONLN 84",
    "#define _SC_CLK_TCK 2",
    "#endif"]

/-- The text of `<signal.h>`. -/
def signalText : String :=
  ofLines [
    "#ifndef _SIGNAL_H",
    "#define _SIGNAL_H",
    "#include <features.h>",
    "#include <bits/types.h>",
    "typedef __sig_atomic_t sig_atomic_t;",
    "typedef void (*__sighandler_t) (int);",
    "#define SIG_ERR ((__sighandler_t) -1)",
    "#define SIG_DFL ((__sighandler_t) 0)",
    "#define SIG_IGN ((__sighandler_t) 1)",
    "#define SIGINT 2",
    "#define SIGILL 4",
    "#define SIGABRT 6",
    "#define SIGFPE 8",
    "#define SIGSEGV 11",
    "#define SIGTERM 15",
    "#define SIGHUP 1",
    "#define SIGQUIT 3",
    "#define SIGTRAP 5",
    "#define SIGKILL 9",
    "#define SIGBUS 7",
    "#define SIGSYS 31",
    "#define SIGPIPE 13",
    "#define SIGALRM 14",
    "#define SIGUSR1 10",
    "#define SIGUSR2 12",
    "#define SIGCHLD 17",
    "#define SIGCONT 18",
    "#define SIGSTOP 19",
    "#define NSIG 65",
    "extern __sighandler_t signal (int __sig, __sighandler_t __handler) __THROW;",
    "extern int raise (int __sig) __THROW;",
    "#ifdef __USE_POSIX",
    "typedef __sigset_t sigset_t;",
    "extern int kill (__pid_t __pid, int __sig) __THROW;",
    "extern int sigemptyset (sigset_t *__set) __THROW __nonnull ((1));",
    "extern int sigfillset (sigset_t *__set) __THROW __nonnull ((1));",
    "extern int sigaddset (sigset_t *__set, int __signo) __THROW __nonnull ((1));",
    "extern int sigdelset (sigset_t *__set, int __signo) __THROW __nonnull ((1));",
    "extern int sigismember (const sigset_t *__set, int __signo) __THROW __nonnull ((1));",
    "#endif",
    "#endif"]

/-- The text of `<setjmp.h>`. -/
def setjmpText : String :=
  ofLines [
    "#ifndef _SETJMP_H",
    "#define _SETJMP_H 1",
    "#include <features.h>",
    "typedef long int __jmp_buf[8];",
    "typedef struct \x7b unsigned long int __val[(1024 / (8 * sizeof (unsigned long int)))]; \x7d __jmp_sigset_t;",
    "struct __jmp_buf_tag \x7b __jmp_buf __jmpbuf; int __mask_was_saved; __jmp_sigset_t __saved_mask; \x7d;",
    "typedef struct __jmp_buf_tag jmp_buf[1];",
    "extern int setjmp (jmp_buf __env) __attribute__ ((__returns_twice__));",
    "extern int __sigsetjmp (struct __jmp_buf_tag __env[1], int __savemask) __THROWNL;",
    "extern int _setjmp (struct __jmp_buf_tag __env[1]) __THROWNL;",
    "#define setjmp(env) _setjmp (env)",
    "extern void longjmp (struct __jmp_buf_tag __env[1], int __val) __THROWNL __attribute__ ((__noreturn__));",
    "#if defined __USE_MISC || defined __USE_XOPEN",
    "extern void _longjmp (struct __jmp_buf_tag __env[1], int __val) __THROWNL __attribute__ ((__noreturn__));",
    "#endif",
    "#ifdef __USE_POSIX",
    "typedef struct __jmp_buf_tag sigjmp_buf[1];",
    "# define sigsetjmp(env, savemask) __sigsetjmp (env, savemask)",
    "extern void siglongjmp (sigjmp_buf __env, int __val) __THROWNL __attribute__ ((__noreturn__));",
    "#endif",
    "#endif"]

/-- The text of `<locale.h>`. -/
def localeText : String :=
  ofLines [
    "#ifndef _LOCALE_H",
    "#define _LOCALE_H 1",
    "#include <features.h>",
    "#define __need_NULL",
    "#include <stddef.h>",
    "#define LC_CTYPE 0",
    "#define LC_NUMERIC 1",
    "#define LC_TIME 2",
    "#define LC_COLLATE 3",
    "#define LC_MONETARY 4",
    "#define LC_MESSAGES 5",
    "#define LC_ALL 6",
    "struct lconv",
    "\x7b",
    "char *decimal_point;",
    "char *thousands_sep;",
    "char *grouping;",
    "char *int_curr_symbol;",
    "char *currency_symbol;",
    "char *mon_decimal_point;",
    "char *mon_thousands_sep;",
    "char *mon_grouping;",
    "char *positive_sign;",
    "char *negative_sign;",
    "char int_frac_digits;",
    "char frac_digits;",
    "char p_cs_precedes;",
    "char p_sep_by_space;",
    "char n_cs_precedes;",
    "char n_sep_by_space;",
    "char p_sign_posn;",
    "char n_sign_posn;",
    "char int_p_cs_precedes;",
    "char int_p_sep_by_space;",
    "char int_n_cs_precedes;",
    "char int_n_sep_by_space;",
    "char int_p_sign_posn;",
    "char int_n_sign_posn;",
    "\x7d;",
    "extern char *setlocale (int __category, const char *__locale) __THROW;",
    "extern struct lconv *localeconv (void) __THROW;",
    "#endif"]

/-- The text of `<fenv.h>`. -/
def fenvText : String :=
  ofLines [
    "#ifndef _FENV_H",
    "#define _FENV_H 1",
    "#include <features.h>",
    "enum",
    "\x7b",
    "FE_INVALID =",
    "#define FE_INVALID 0x01",
    "FE_INVALID,",
    "__FE_DENORM = 0x02,",
    "FE_DIVBYZERO =",
    "#define FE_DIVBYZERO 0x04",
    "FE_DIVBYZERO,",
    "FE_OVERFLOW =",
    "#define FE_OVERFLOW 0x08",
    "FE_OVERFLOW,",
    "FE_UNDERFLOW =",
    "#define FE_UNDERFLOW 0x10",
    "FE_UNDERFLOW,",
    "FE_INEXACT =",
    "#define FE_INEXACT 0x20",
    "FE_INEXACT",
    "\x7d;",
    "#define FE_ALL_EXCEPT (FE_INEXACT | FE_DIVBYZERO | FE_UNDERFLOW | FE_OVERFLOW | FE_INVALID)",
    "enum",
    "\x7b",
    "FE_TONEAREST =",
    "#define FE_TONEAREST 0",
    "FE_TONEAREST,",
    "FE_DOWNWARD =",
    "#define FE_DOWNWARD 0x400",
    "FE_DOWNWARD,",
    "FE_UPWARD =",
    "#define FE_UPWARD 0x800",
    "FE_UPWARD,",
    "FE_TOWARDZERO =",
    "#define FE_TOWARDZERO 0xc00",
    "FE_TOWARDZERO",
    "\x7d;",
    "typedef unsigned short int fexcept_t;",
    "typedef struct \x7b unsigned short int __control_word; unsigned short int __glibc_reserved1; unsigned short int __status_word; unsigned short int __glibc_reserved2; unsigned short int __tags; unsigned short int __glibc_reserved3; unsigned int __eip; unsigned short int __cs_selector; unsigned int __opcode:11; unsigned int __glibc_reserved4:5; unsigned int __data_offset; unsigned short int __data_selector; unsigned short int __glibc_reserved5; unsigned int __mxcsr; \x7d fenv_t;",
    "#define FE_DFL_ENV ((const fenv_t *) -1)",
    "extern int feclearexcept (int __excepts) __THROW;",
    "extern int fegetexceptflag (fexcept_t *__flagp, int __excepts) __THROW;",
    "extern int feraiseexcept (int __excepts) __THROW;",
    "extern int fesetexceptflag (const fexcept_t *__flagp, int __excepts) __THROW;",
    "extern int fetestexcept (int __excepts) __THROW;",
    "extern int fegetround (void) __THROW __attribute_pure__;",
    "extern int fesetround (int __rounding_direction) __THROW;",
    "extern int fegetenv (fenv_t *__envp) __THROW;",
    "extern int feholdexcept (fenv_t *__envp) __THROW;",
    "extern int fesetenv (const fenv_t *__envp) __THROW;",
    "extern int feupdateenv (const fenv_t *__envp) __THROW;",
    "#endif"]

/-- The text of `<complex.h>`. -/
def complexText : String :=
  ofLines [
    "#ifndef _COMPLEX_H",
    "#define _COMPLEX_H 1",
    "#include <features.h>",
    "#define complex _Complex",
    "#define _Complex_I (__extension__ 1.0iF)",
    "#undef I",
    "#define I _Complex_I",
    "#define CMPLX(x, y) __builtin_complex ((double) (x), (double) (y))",
    "#define CMPLXF(x, y) __builtin_complex ((float) (x), (float) (y))",
    "#define CMPLXL(x, y) __builtin_complex ((long double) (x), (long double) (y))",
    "#endif"]

/-- The text of `<tgmath.h>`. -/
def tgmathText : String :=
  ofLines [
    "#ifndef _TGMATH_H",
    "#define _TGMATH_H 1",
    "#include <math.h>",
    "#include <complex.h>",
    "#endif"]

/-- The text of `<memory.h>`. -/
def memoryText : String :=
  ofLines [
    "#ifndef _MEMORY_H",
    "#define _MEMORY_H 1",
    "#include <features.h>",
    "#include <string.h>",
    "#endif"]

/-- The text of `<malloc.h>`. -/
def mallocText : String :=
  ofLines [
    "#ifndef _MALLOC_H",
    "#define _MALLOC_H 1",
    "#include <features.h>",
    "#define __need_size_t",
    "#define __need_NULL",
    "#include <stddef.h>",
    "extern void *malloc (size_t __size) __THROW __attribute_malloc__;",
    "extern void *calloc (size_t __nmemb, size_t __size) __THROW __attribute_malloc__;",
    "extern void *realloc (void *__ptr, size_t __size) __THROW;",
    "extern void free (void *__ptr) __THROW;",
    "extern void *memalign (size_t __alignment, size_t __size) __THROW __attribute_malloc__;",
    "extern void *valloc (size_t __size) __THROW __attribute_malloc__;",
    "extern size_t malloc_usable_size (void *__ptr) __THROW;",
    "#endif"]

/-- The text of `<byteswap.h>`. -/
def byteswapText : String :=
  ofLines [
    "#ifndef _BYTESWAP_H",
    "#define _BYTESWAP_H 1",
    "#include <features.h>",
    "#define bswap_16(x) __builtin_bswap16 (x)",
    "#define bswap_32(x) __builtin_bswap32 (x)",
    "#define bswap_64(x) __builtin_bswap64 (x)",
    "#endif"]

/-- The text of `<dlfcn.h>`. -/
def dlfcnText : String :=
  ofLines [
    "#ifndef _DLFCN_H",
    "#define _DLFCN_H 1",
    "#include <features.h>",
    "#define RTLD_LAZY 0x00001",
    "#define RTLD_NOW 0x00002",
    "#define RTLD_GLOBAL 0x00100",
    "#define RTLD_LOCAL 0",
    "extern void *dlopen (const char *__file, int __mode) __THROWNL;",
    "extern int dlclose (void *__handle) __THROWNL __nonnull ((1));",
    "extern void *dlsym (void *__restrict __handle, const char *__restrict __name) __THROW __nonnull ((2));",
    "extern char *dlerror (void) __THROW;",
    "#endif"]

/-- The text of `<pthread.h>`. -/
def pthreadText : String :=
  ofLines [
    "#ifndef _PTHREAD_H",
    "#define _PTHREAD_H 1",
    "#include <features.h>",
    "#include <sys/types.h>",
    "#include <bits/pthreadtypes.h>",
    "#include <time.h>",
    "#define PTHREAD_MUTEX_INITIALIZER \x7b \x7b 0, 0, 0, 0, 0, 0, 0, \x7b 0, 0 \x7d \x7d \x7d",
    "#define PTHREAD_ONCE_INIT 0",
    "extern int pthread_create (pthread_t *__restrict __newthread, const pthread_attr_t *__restrict __attr, void *(*__start_routine) (void *), void *__restrict __arg) __THROWNL __nonnull ((1, 3));",
    "extern int pthread_join (pthread_t __th, void **__thread_return);",
    "extern int pthread_detach (pthread_t __th) __THROW;",
    "extern pthread_t pthread_self (void) __THROW __attribute__ ((__const__));",
    "extern int pthread_mutex_init (pthread_mutex_t *__mutex, const pthread_mutexattr_t *__mutexattr) __THROW __nonnull ((1));",
    "extern int pthread_mutex_destroy (pthread_mutex_t *__mutex) __THROW __nonnull ((1));",
    "extern int pthread_mutex_lock (pthread_mutex_t *__mutex) __THROWNL __nonnull ((1));",
    "extern int pthread_mutex_trylock (pthread_mutex_t *__mutex) __THROWNL __nonnull ((1));",
    "extern int pthread_mutex_unlock (pthread_mutex_t *__mutex) __THROWNL __nonnull ((1));",
    "extern int pthread_once (pthread_once_t *__once_control, void (*__init_routine) (void)) __nonnull ((1, 2));",
    "extern int pthread_key_create (pthread_key_t *__key, void (*__destr_function) (void *)) __THROW __nonnull ((1));",
    "extern void *pthread_getspecific (pthread_key_t __key) __THROW;",
    "extern int pthread_setspecific (pthread_key_t __key, const void *__pointer) __THROW;",
    "#endif"]

/-- The text of `<sys/param.h>`. -/
def sysParamText : String :=
  ofLines [
    "#ifndef _SYS_PARAM_H",
    "#define _SYS_PARAM_H 1",
    "#define __need_NULL",
    "#include <stddef.h>",
    "#include <sys/types.h>",
    "#include <limits.h>",
    "#include <endian.h>",
    "#define MAXPATHLEN PATH_MAX",
    "#define NBBY CHAR_BIT",
    "#define MIN(a,b) (((a)<(b))?(a):(b))",
    "#define MAX(a,b) (((a)>(b))?(a):(b))",
    "#define howmany(x, y) (((x) + ((y) - 1)) / (y))",
    "#define roundup(x, y) ((((x) + ((y) - 1)) / (y)) * (y))",
    "#define powerof2(x) ((((x) - 1) & (x)) == 0)",
    "#define nitems(x) (sizeof ((x)) / sizeof ((x)[0]))",
    "#endif"]

/-- The text of `<sys/time.h>`. -/
def sysTimeText : String :=
  ofLines [
    "#ifndef _SYS_TIME_H",
    "#define _SYS_TIME_H 1",
    "#include <features.h>",
    "#include <bits/types.h>",
    "#include <sys/select.h>",
    "#ifndef __time_t_defined",
    "typedef __time_t time_t;",
    "# define __time_t_defined 1",
    "#endif",
    "#ifndef __suseconds_t_defined",
    "typedef __suseconds_t suseconds_t;",
    "# define __suseconds_t_defined",
    "#endif",
    "struct timezone \x7b int tz_minuteswest; int tz_dsttime; \x7d;",
    "extern int gettimeofday (struct timeval *__restrict __tv, void *__restrict __tz) __THROW __nonnull ((1));",
    "#endif"]

/-- The text of `<wctype.h>`. -/
def wctypeText : String :=
  ofLines [
    "#ifndef _WCTYPE_H",
    "#define _WCTYPE_H 1",
    "#include <features.h>",
    "#include <bits/types.h>",
    "typedef unsigned int wint_t;",
    "typedef unsigned long int wctype_t;",
    "typedef const __int32_t *wctrans_t;",
    "#ifndef WEOF",
    "# define WEOF (0xffffffffu)",
    "#endif",
    "extern int iswalnum (wint_t __wc) __THROW;",
    "extern int iswalpha (wint_t __wc) __THROW;",
    "extern int iswcntrl (wint_t __wc) __THROW;",
    "extern int iswdigit (wint_t __wc) __THROW;",
    "extern int iswgraph (wint_t __wc) __THROW;",
    "extern int iswlower (wint_t __wc) __THROW;",
    "extern int iswprint (wint_t __wc) __THROW;",
    "extern int iswpunct (wint_t __wc) __THROW;",
    "extern int iswspace (wint_t __wc) __THROW;",
    "extern int iswupper (wint_t __wc) __THROW;",
    "extern int iswxdigit (wint_t __wc) __THROW;",
    "extern int iswblank (wint_t __wc) __THROW;",
    "extern wint_t towlower (wint_t __wc) __THROW;",
    "extern wint_t towupper (wint_t __wc) __THROW;",
    "#endif"]

/-- The text of `<libgen.h>`. -/
def libgenText : String :=
  ofLines [
    "#ifndef _LIBGEN_H",
    "#define _LIBGEN_H 1",
    "#include <features.h>",
    "extern char *dirname (char *__path) __THROW;",
    "extern char *__xpg_basename (char *__path) __THROW;",
    "#define basename __xpg_basename",
    "#endif"]

/-- The text of `<stdatomic.h>`. -/
def stdatomicText : String :=
  ofLines [
    "#ifndef _STDATOMIC_H",
    "#define _STDATOMIC_H",
    "typedef enum",
    "\x7b",
    "memory_order_relaxed = __ATOMIC_RELAXED,",
    "memory_order_consume = __ATOMIC_CONSUME,",
    "memory_order_acquire = __ATOMIC_ACQUIRE,",
    "memory_order_release = __ATOMIC_RELEASE,",
    "memory_order_acq_rel = __ATOMIC_ACQ_REL,",
    "memory_order_seq_cst = __ATOMIC_SEQ_CST",
    "\x7d memory_order;",
    "typedef _Atomic _Bool atomic_bool;",
    "typedef _Atomic char atomic_char;",
    "typedef _Atomic signed char atomic_schar;",
    "typedef _Atomic unsigned char atomic_uchar;",
    "typedef _Atomic short atomic_short;",
    "typedef _Atomic unsigned short atomic_ushort;",
    "typedef _Atomic int atomic_int;",
    "typedef _Atomic unsigned int atomic_uint;",
    "typedef _Atomic long atomic_long;",
    "typedef _Atomic unsigned long atomic_ulong;",
    "typedef _Atomic long long atomic_llong;",
    "typedef _Atomic unsigned long long atomic_ullong;",
    "typedef _Atomic __SIZE_TYPE__ atomic_size_t;",
    "typedef _Atomic __PTRDIFF_TYPE__ atomic_ptrdiff_t;",
    "typedef _Atomic __INTPTR_TYPE__ atomic_intptr_t;",
    "typedef _Atomic __UINTPTR_TYPE__ atomic_uintptr_t;",
    "typedef _Atomic __INTMAX_TYPE__ atomic_intmax_t;",
    "typedef _Atomic __UINTMAX_TYPE__ atomic_uintmax_t;",
    "#define ATOMIC_VAR_INIT(VALUE) (VALUE)",
    "#define atomic_init(PTR, VAL) atomic_store_explicit (PTR, VAL, __ATOMIC_RELAXED)",
    "#define kill_dependency(Y) (Y)",
    "#define atomic_thread_fence(MO) __atomic_thread_fence (MO)",
    "#define atomic_signal_fence(MO) __atomic_signal_fence (MO)",
    "#define atomic_is_lock_free(OBJ) __atomic_is_lock_free (sizeof (*(OBJ)), (OBJ))",
    "#define atomic_store_explicit(PTR, VAL, MO) __atomic_store_n ((PTR), (VAL), (MO))",
    "#define atomic_store(PTR, VAL) atomic_store_explicit (PTR, VAL, __ATOMIC_SEQ_CST)",
    "#define atomic_load_explicit(PTR, MO) __atomic_load_n ((PTR), (MO))",
    "#define atomic_load(PTR) atomic_load_explicit (PTR, __ATOMIC_SEQ_CST)",
    "#define atomic_exchange_explicit(PTR, VAL, MO) __atomic_exchange_n ((PTR), (VAL), (MO))",
    "#define atomic_exchange(PTR, VAL) atomic_exchange_explicit (PTR, VAL, __ATOMIC_SEQ_CST)",
    "#define atomic_compare_exchange_strong_explicit(PTR, VAL, DES, SUC, FAIL) __atomic_compare_exchange_n ((PTR), (VAL), (DES), 0, (SUC), (FAIL))",
    "#define atomic_compare_exchange_strong(PTR, VAL, DES) atomic_compare_exchange_strong_explicit (PTR, VAL, DES, __ATOMIC_SEQ_CST, __ATOMIC_SEQ_CST)",
    "#define atomic_compare_exchange_weak_explicit(PTR, VAL, DES, SUC, FAIL) __atomic_compare_exchange_n ((PTR), (VAL), (DES), 1, (SUC), (FAIL))",
    "#define atomic_compare_exchange_weak(PTR, VAL, DES) atomic_compare_exchange_weak_explicit (PTR, VAL, DES, __ATOMIC_SEQ_CST, __ATOMIC_SEQ_CST)",
    "#define atomic_fetch_add(PTR, VAL) __atomic_fetch_add ((PTR), (VAL), __ATOMIC_SEQ_CST)",
    "#define atomic_fetch_add_explicit(PTR, VAL, MO) __atomic_fetch_add ((PTR), (VAL), (MO))",
    "#define atomic_fetch_sub(PTR, VAL) __atomic_fetch_sub ((PTR), (VAL), __ATOMIC_SEQ_CST)",
    "#define atomic_fetch_sub_explicit(PTR, VAL, MO) __atomic_fetch_sub ((PTR), (VAL), (MO))",
    "#define atomic_fetch_or(PTR, VAL) __atomic_fetch_or ((PTR), (VAL), __ATOMIC_SEQ_CST)",
    "#define atomic_fetch_or_explicit(PTR, VAL, MO) __atomic_fetch_or ((PTR), (VAL), (MO))",
    "#define atomic_fetch_xor(PTR, VAL) __atomic_fetch_xor ((PTR), (VAL), __ATOMIC_SEQ_CST)",
    "#define atomic_fetch_xor_explicit(PTR, VAL, MO) __atomic_fetch_xor ((PTR), (VAL), (MO))",
    "#define atomic_fetch_and(PTR, VAL) __atomic_fetch_and ((PTR), (VAL), __ATOMIC_SEQ_CST)",
    "#define atomic_fetch_and_explicit(PTR, VAL, MO) __atomic_fetch_and ((PTR), (VAL), (MO))",
    "typedef _Atomic struct \x7b _Bool __val; \x7d atomic_flag;",
    "#define ATOMIC_FLAG_INIT \x7b 0 \x7d",
    "#define atomic_flag_test_and_set(PTR) __atomic_test_and_set ((PTR), __ATOMIC_SEQ_CST)",
    "#define atomic_flag_clear(PTR) __atomic_clear ((PTR), __ATOMIC_SEQ_CST)",
    "#define ATOMIC_BOOL_LOCK_FREE __GCC_ATOMIC_BOOL_LOCK_FREE",
    "#define ATOMIC_CHAR_LOCK_FREE __GCC_ATOMIC_CHAR_LOCK_FREE",
    "#define ATOMIC_SHORT_LOCK_FREE __GCC_ATOMIC_SHORT_LOCK_FREE",
    "#define ATOMIC_INT_LOCK_FREE __GCC_ATOMIC_INT_LOCK_FREE",
    "#define ATOMIC_LONG_LOCK_FREE __GCC_ATOMIC_LONG_LOCK_FREE",
    "#define ATOMIC_LLONG_LOCK_FREE __GCC_ATOMIC_LLONG_LOCK_FREE",
    "#define ATOMIC_POINTER_LOCK_FREE __GCC_ATOMIC_POINTER_LOCK_FREE",
    "#endif"]

end InlineC.Lang.Header
