import PlatformFirmware.Proofs.BoardHandOff

namespace PlatformFirmware

namespace BoardMap

end BoardMap

namespace PlatformInfo

end PlatformInfo

end PlatformFirmware
