import WalberlaCodegen.Python
import WalberlaCodegen.Symbolic
import WalberlaCodegen.Direction
import WalberlaCodegen.Config
import WalberlaCodegen.PackInfo
import WalberlaCodegen.FromKernel
import WalberlaCodegen.Lowering
import WalberlaCodegen.LatticeModel
import WalberlaCodegen.AdditionalDataHandler
import WalberlaCodegen.Sweep
import WalberlaCodegen.Build
