import SessionHandoff.Limits.Kernel
import SessionHandoff.Processes.Start

/-!
# Machines

A machine is a kernel, which answers the calls that apply limits, and the programs that can be
started on it.
-/

set_option autoImplicit false

namespace SessionHandoff

/-- What sessions are started on. -/
structure Machine where
  kernel : Kernel ProcessLimits
  programs : ProgramTable

end SessionHandoff
