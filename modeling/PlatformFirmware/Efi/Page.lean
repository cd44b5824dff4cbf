namespace PlatformFirmware.Efi.Page

def bytes : Nat := 4096

def count (size : UInt64) : UInt64 := (size >>> 12) + (if size &&& 0xFFF = 0 then 0 else 1)

def size (pages : UInt64) : UInt64 := pages <<< 12

end PlatformFirmware.Efi.Page
