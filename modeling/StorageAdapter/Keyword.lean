/-! # Keywords

The commands of line callers. A keyword is found anywhere in the first word of a line, in either
case, and the first entry of the table that occurs there wins. So an entry that contains another
one stands before it. -/

namespace StorageAdapter

/-- A command of line callers, with the form of its line. -/
inductive Command where
  /-- `ADAPTERCONFIG` -/
  | adapterConfig
  /-- `SETSSID:ssid,pass` -/
  | setSsid
  /-- `GETSSID` -/
  | getSsid
  /-- `SCANRESULT:n` -/
  | scanResult
  /-- `SCAN` -/
  | scan
  /-- `WIFIENABLE` -/
  | wifiEnable
  /-- `WIFIDISABLE` -/
  | wifiDisable
  /-- `WIFISTATUS` -/
  | wifiStatus
  /-- `UNMOUNTHOST:n` -/
  | unmountHost
  /-- `MOUNTHOST:n` -/
  | mountHost
  /-- `UNMOUNTDRIVE:n` -/
  | unmountDrive
  /-- `MOUNTDRIVE:n,mode` -/
  | mountDrive
  /-- `MOUNTALL` -/
  | mountAll
  /-- `OPENDIR:host,path[~pattern]` -/
  | openDir
  /-- `READDIR:maxlen[,options]` -/
  | readDir
  /-- `CLOSEDIR` -/
  | closeDir
  /-- `GETDIRPOS` -/
  | getDirPos
  /-- `SETDIRPOS:pos` -/
  | setDirPos
  /-- `GETHOST:n` -/
  | getHost
  /-- `PUTHOST:n[,name]` -/
  | putHost
  /-- `SETDRIVEFILENAME:slot,host,mode,name` -/
  | setDriveFilename
  /-- `DRIVEFILENAME:n` -/
  | getDriveFilename
  /-- `GETDRIVE:n` -/
  | getDrive
  /-- `PUTDRIVE:slot,host,name,mode` -/
  | putDrive
  /-- `WRITEAPPKEY:len,data` -/
  | writeAppKey
  /-- `READAPPKEY` -/
  | readAppKey
  /-- `OPENAPPKEY:creator,app,key,mode` -/
  | openAppKey
  /-- `CLOSEAPPKEY` -/
  | closeAppKey
  /-- `BOOTCONFIG:0|1` -/
  | bootConfig
  /-- `BOOTMODE:n` -/
  | bootMode
  /-- `FUJISTATUS` -/
  | status
  /-- `LOCALIP` -/
  | localIp
  /-- `RESET` -/
  | reset
  /-- `ENABLE:ids` -/
  | enableDevice
  /-- `DISABLE:ids` -/
  | disableDevice
deriving DecidableEq, Repr

namespace Command

/-- The keywords and their commands, in order of precedence. -/
def keywords : List (String × Command) :=
  [("adapterconfig", adapterConfig), ("setssid", setSsid), ("getssid", getSsid),
   ("scanresult", scanResult), ("scan", scan), ("wifienable", wifiEnable),
   ("wifidisable", wifiDisable), ("wifistatus", wifiStatus), ("unmounthost", unmountHost),
   ("mounthost", mountHost), ("unmountdrive", unmountDrive), ("mountdrive", mountDrive),
   ("mountall", mountAll), ("opendir", openDir), ("readdir", readDir), ("closedir", closeDir),
   ("getdirpos", getDirPos), ("setdirpos", setDirPos), ("gethost", getHost), ("flh", getHost),
   ("puthost", putHost), ("fhost", putHost), ("setdrivefilename", setDriveFilename),
   ("drivefilename", getDriveFilename), ("getdrive", getDrive), ("putdrive", putDrive),
   ("writeappkey", writeAppKey), ("readappkey", readAppKey), ("openappkey", openAppKey),
   ("closeappkey", closeAppKey), ("bootconfig", bootConfig), ("bootmode", bootMode),
   ("fujistatus", status), ("localip", localIp), ("reset", reset), ("enable", enableDevice),
   ("disable", disableDevice)]

/-- Whether one list occurs within another. -/
def occursIn : List Char → List Char → Bool
  | word, [] => word.isEmpty
  | word, c :: cs => word.isPrefixOf (c :: cs) || occursIn word cs

/-- The command of the first word of a line. -/
def ofKeyword? (word : String) : Option Command :=
  let lowered := word.toList.map Char.toLower
  (keywords.find? fun entry => occursIn entry.1.toList lowered).map (·.2)

end Command

end StorageAdapter
