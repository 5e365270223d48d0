import InlineC.Lang.Header.Core
import InlineC.Lang.Header.Stdio
import InlineC.Lang.Header.Extra

/-!
# Headers

The headers the compiler can include: the system headers of a hosted C implementation on
64-bit Linux, found by their angled names, and the runtime header, found by its quoted name
next to the source. A quoted name that is not next to the source is looked for among the
system headers too, as the compiler does.
-/

namespace InlineC.Lang

/-- The text of a system header by its name. -/
def systemHeader : String → Option String
  | "stdc-predef.h" => some Header.stdcPredefText
  | "features.h" => some Header.featuresText
  | "sys/cdefs.h" => some Header.sysCdefsText
  | "bits/types.h" => some Header.bitsTypesText
  | "bits/wchar.h" => some Header.bitsWcharText
  | "bits/pthreadtypes.h" => some Header.bitsPthreadtypesText
  | "stddef.h" => some Header.stddefText
  | "stdarg.h" => some Header.stdargText
  | "limits.h" => some Header.limitsText
  | "stdint.h" => some Header.stdintText
  | "sys/types.h" => some Header.sysTypesText
  | "endian.h" => some Header.endianText
  | "sys/select.h" => some Header.sysSelectText
  | "alloca.h" => some Header.allocaText
  | "stdio.h" => some Header.stdioText
  | "stdlib.h" => some Header.stdlibText
  | "string.h" => some Header.stringText
  | "strings.h" => some Header.stringsText
  | "math.h" => some Header.mathText
  | "ctype.h" => some Header.ctypeText
  | "errno.h" => some Header.errnoText
  | "stdbool.h" => some Header.stdboolText
  | "iso646.h" => some Header.iso646Text
  | "stdalign.h" => some Header.stdalignText
  | "stdnoreturn.h" => some Header.stdnoreturnText
  | "assert.h" => some Header.assertText
  | "float.h" => some Header.floatText
  | "inttypes.h" => some Header.inttypesText
  | "time.h" => some Header.timeText
  | "uchar.h" => some Header.ucharText
  | "wchar.h" => some Header.wcharText
  | "unistd.h" => some Header.unistdText
  | "signal.h" => some Header.signalText
  | "setjmp.h" => some Header.setjmpText
  | "locale.h" => some Header.localeText
  | "fenv.h" => some Header.fenvText
  | "complex.h" => some Header.complexText
  | "tgmath.h" => some Header.tgmathText
  | "memory.h" => some Header.memoryText
  | "malloc.h" => some Header.mallocText
  | "byteswap.h" => some Header.byteswapText
  | "dlfcn.h" => some Header.dlfcnText
  | "pthread.h" => some Header.pthreadText
  | "sys/param.h" => some Header.sysParamText
  | "sys/time.h" => some Header.sysTimeText
  | "wctype.h" => some Header.wctypeText
  | "libgen.h" => some Header.libgenText
  | "stdatomic.h" => some Header.stdatomicText
  | _ => none

/-- The file name the runtime header has next to the source. -/
def runtimeHeaderName : String := "cexi.h"

/-- The text of a header, quoted or angled; none when it cannot be found. -/
def findHeader (quoted : Bool) (name : String) : Option String :=
  if quoted && name == runtimeHeaderName then some Header.cexiText else systemHeader name

end InlineC.Lang
